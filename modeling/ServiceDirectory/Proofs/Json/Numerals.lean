import ServiceDirectory.Json.Number
import ServiceDirectory.Proofs.Json.Strings

/-!
# Numbers in JSON

Which texts are numbers.  A number is read up to the first character that does not go on with it.
-/

namespace ServiceDirectory.Json

/-- One digit or more. -/
def Digits (text : List Char) : Prop := text ≠ [] ∧ ∀ c ∈ text, c.isDigit = true

/-- A number without its sign: no digit follows a zero at the start, and there are digits behind
a point and behind the mark of an exponent. -/
inductive IsNumeral : List Char → Prop
  | intro {whole fraction exponent : List Char} (hwhole : Digits whole)
    (hzero : whole.head? = some '0' → whole = ['0'])
    (hfraction : fraction = [] ∨ ∃ digits, fraction = '.' :: digits ∧ Digits digits)
    (hexponent : exponent = [] ∨ ∃ mark sign digits, exponent = mark :: (sign ++ digits) ∧
      (mark = 'e' ∨ mark = 'E') ∧ (sign = [] ∨ sign = ['+'] ∨ sign = ['-']) ∧ Digits digits) :
    IsNumeral (whole ++ fraction ++ exponent)

/-- Whether a number goes on with a character. -/
def continuesNumber (c : Char) : Bool := c.isDigit || c == '.' || c == 'e' || c == 'E'

/-- A number in front of the text ends there. -/
def Ends (text : List Char) : Prop := ∀ c ∈ text.head?, continuesNumber c = false

theorem Ends.spec {text : List Char} (h : Ends text) :
    ∀ c ∈ text.head?, c.isDigit = false ∧ c ≠ '.' ∧ c ≠ 'e' ∧ c ≠ 'E' := by
  intro c hc
  have hends := h c hc
  simp only [continuesNumber, Bool.or_eq_false_iff, beq_eq_false_iff_ne] at hends
  exact ⟨hends.1.1.1, hends.1.1.2, hends.1.2, hends.2⟩

theorem ends_cons {c : Char} (hc : continuesNumber c = false) (text : List Char) :
    Ends (c :: text) := by
  rintro d ⟨⟩
  exact hc

theorem Ends.spaced {s text : List Char} (hs : Spaces s) (h : Ends text) : Ends (s ++ text) := by
  cases s with
  | nil => exact h
  | cons c s =>
    have hspace := hs c List.mem_cons_self
    refine ends_cons ?_ _
    simp only [isSpace, Bool.or_eq_true, beq_iff_eq] at hspace
    rcases hspace with ((rfl | rfl) | rfl) | rfl <;> decide

theorem ne_of_isDigit {c d : Char} (hc : c.isDigit = true) (hd : d.isDigit = false) : c ≠ d := by
  rintro rfl
  rw [hc] at hd
  cases hd

theorem isSpace_of_isDigit {c : Char} (hc : c.isDigit = true) : isSpace c = false := by
  simp only [isSpace, Bool.or_eq_false_iff, beq_eq_false_iff_ne]
  exact ⟨⟨⟨ne_of_isDigit hc (by decide), ne_of_isDigit hc (by decide)⟩,
    ne_of_isDigit hc (by decide)⟩, ne_of_isDigit hc (by decide)⟩

theorem takeDigits_append {digits rest : List Char} (h : ∀ c ∈ digits, c.isDigit = true)
    (hrest : ∀ c ∈ rest.head?, c.isDigit = false) :
    takeDigits (digits ++ rest) = (digits, rest) := by
  have htake : rest.takeWhile Char.isDigit = [] := by
    cases rest with
    | nil => rfl
    | cons c rest => exact List.takeWhile_cons_of_neg (by simp [hrest c rfl])
  have hdrop : rest.dropWhile Char.isDigit = rest := by
    cases rest with
    | nil => rfl
    | cons c rest => exact List.dropWhile_cons_of_neg (by simp [hrest c rfl])
  rw [takeDigits, List.takeWhile_append_of_pos h, List.dropWhile_append_of_pos h, htake, hdrop,
    List.append_nil]

theorem readDigits_append {atEnd : Fault} {digits rest : List Char} (h : Digits digits)
    (hrest : ∀ c ∈ rest.head?, c.isDigit = false) :
    readDigits atEnd (digits ++ rest) = .ok (digits, rest) := by
  obtain ⟨hne, hdigits⟩ := h
  cases digits with
  | nil => exact absurd rfl hne
  | cons c digits =>
    rw [List.cons_append, readDigits, if_pos (hdigits c List.mem_cons_self), ← List.cons_append,
      takeDigits_append hdigits hrest]

section Numeral

variable {atEnd : Fault} {rest : List Char}

theorem readWhole_append {whole : List Char} (h : Digits whole)
    (hzero : whole.head? = some '0' → whole = ['0']) (hrest : ∀ c ∈ rest.head?, c.isDigit = false) :
    readWhole atEnd (whole ++ rest) = .ok (whole, rest) := by
  rw [readWhole, readDigits_append h hrest]
  simp only [bind, Except.bind]
  split
  · exact absurd (hzero rfl) (by simp)
  · rfl

theorem readFraction_of_ne (h : ∀ c ∈ rest.head?, c ≠ '.') :
    readFraction atEnd rest = .ok (none, rest) := by
  unfold readFraction
  split
  · exact absurd rfl (h _ rfl)
  · rfl

theorem readFraction_append {digits : List Char} (hdigits : Digits digits)
    (hrest : ∀ c ∈ rest.head?, c.isDigit = false) :
    readFraction atEnd ('.' :: digits ++ rest) = .ok (some digits, rest) := by
  show (readDigits atEnd (digits ++ rest) >>= _) = _
  rw [readDigits_append hdigits hrest]
  rfl

theorem readExponent_of_ne (h : ∀ c ∈ rest.head?, c ≠ 'e' ∧ c ≠ 'E') :
    readExponent atEnd rest = .ok (none, rest) := by
  cases rest with
  | nil => rfl
  | cons c rest =>
    unfold readExponent
    exact if_neg (not_or.2 (h c rfl))

theorem readExponent_append {mark : Char} {sign digits : List Char}
    (hmark : mark = 'e' ∨ mark = 'E') (hsign : sign = [] ∨ sign = ['+'] ∨ sign = ['-'])
    (hdigits : Digits digits) (hrest : ∀ c ∈ rest.head?, c.isDigit = false) :
    ∃ exponent, readExponent atEnd (mark :: (sign ++ digits) ++ rest) = .ok (exponent, rest) := by
  have hread : readDigits atEnd (digits ++ rest) = .ok (digits, rest) :=
    readDigits_append hdigits hrest
  rw [List.cons_append, List.append_assoc]
  unfold readExponent
  dsimp only
  rw [if_pos hmark]
  rcases hsign with rfl | rfl | rfl
  · have hsigned : ∀ c ∈ (digits ++ rest).head?, c ≠ '+' ∧ c ≠ '-' := by
      obtain ⟨hne, hall⟩ := hdigits
      obtain ⟨d, digits, rfl⟩ := List.exists_cons_of_ne_nil hne
      rintro c ⟨⟩
      constructor <;> rintro rfl <;> cases hall _ List.mem_cons_self
    refine ⟨some (true, digits), ?_⟩
    rw [List.nil_append]
    split
    · rename_i heq
      rw [heq] at hsigned
      exact absurd rfl (hsigned _ rfl).1
    · rename_i heq
      rw [heq] at hsigned
      exact absurd rfl (hsigned _ rfl).2
    · rw [hread]
      rfl
  · refine ⟨some (true, digits), ?_⟩
    show (readDigits atEnd (digits ++ rest) >>= _) = _
    rw [hread]
    rfl
  · refine ⟨some (false, digits), ?_⟩
    show (readDigits atEnd (digits ++ rest) >>= _) = _
    rw [hread]
    rfl

theorem readNumeral_of_parts {text more more' : List Char} {whole : List Char}
    {fraction : Option (List Char)} {exponent : Option (Bool × List Char)}
    (hwhole : readWhole atEnd text = .ok (whole, more))
    (hfraction : readFraction atEnd more = .ok (fraction, more'))
    (hexponent : readExponent atEnd more' = .ok (exponent, rest)) :
    readNumeral atEnd text = .ok (⟨whole, fraction, exponent⟩, rest) := by
  simp only [readNumeral, hwhole, hfraction, hexponent, bind, Except.bind, pure, Except.pure]

/-- A number is read up to the character that does not go on with it. -/
theorem IsNumeral.readNumeral {text : List Char} (h : IsNumeral text) (hrest : Ends rest) :
    ∃ numeral, readNumeral atEnd (text ++ rest) = .ok (numeral, rest) := by
  obtain @⟨whole, fraction, exponent, hwhole, hzero, hfraction, hexponent⟩ := h
  have hends := hrest.spec
  obtain ⟨exponent?, hreadExponent⟩ :
      ∃ exponent?, readExponent atEnd (exponent ++ rest) = .ok (exponent?, rest) := by
    rcases hexponent with rfl | ⟨mark, sign, digits, rfl, hmark, hsign, hdigits⟩
    · exact ⟨none, readExponent_of_ne fun c hc => (hends c hc).2.2⟩
    · exact readExponent_append hmark hsign hdigits fun c hc => (hends c hc).1
  have hexponentHead : ∀ c ∈ (exponent ++ rest).head?, c.isDigit = false ∧ c ≠ '.' := by
    rcases hexponent with rfl | ⟨mark, sign, digits, rfl, rfl | rfl, -, -⟩
    · exact fun c hc => ⟨(hends c hc).1, (hends c hc).2.1⟩
    · rintro c ⟨⟩
      decide
    · rintro c ⟨⟩
      decide
  obtain ⟨fraction?, hreadFraction⟩ : ∃ fraction?,
      readFraction atEnd (fraction ++ (exponent ++ rest)) = .ok (fraction?, exponent ++ rest) := by
    rcases hfraction with rfl | ⟨digits, rfl, hdigits⟩
    · exact ⟨none, readFraction_of_ne fun c hc => (hexponentHead c hc).2⟩
    · exact ⟨some digits, readFraction_append hdigits fun c hc => (hexponentHead c hc).1⟩
  have hfractionHead : ∀ c ∈ (fraction ++ (exponent ++ rest)).head?, c.isDigit = false := by
    rcases hfraction with rfl | ⟨digits, rfl, -⟩
    · exact fun c hc => (hexponentHead c hc).1
    · rintro c ⟨⟩
      decide
  rw [List.append_assoc, List.append_assoc]
  exact ⟨_, readNumeral_of_parts (readWhole_append hwhole hzero hfractionHead) hreadFraction
    hreadExponent⟩

theorem IsNumeral.exists_digit {text : List Char} (h : IsNumeral text) :
    ∃ c more, text = c :: more ∧ c.isDigit = true := by
  obtain ⟨⟨hne, hdigits⟩, -, -, -⟩ := h
  obtain ⟨c, whole, rfl⟩ := List.exists_cons_of_ne_nil hne
  exact ⟨c, _, rfl, hdigits c List.mem_cons_self⟩

theorem IsNumeral.skipNumber {text : List Char} (h : IsNumeral text) (hrest : Ends rest) :
    skipNumber (text ++ rest) = .ok rest := by
  obtain ⟨numeral, hread⟩ :
      ∃ numeral, Json.readNumeral .malformed (text ++ rest) = .ok (numeral, rest) :=
    h.readNumeral hrest
  rw [Json.skipNumber, hread]
  rfl

end Numeral

end ServiceDirectory.Json
