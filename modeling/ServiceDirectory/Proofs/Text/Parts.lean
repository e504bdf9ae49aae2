import ServiceDirectory.Text.Blank
import ServiceDirectory.Text.Decimal
import ServiceDirectory.Text.Split
import Mathlib.Data.List.DropRight
import Mathlib.Data.Nat.Digits.Defs

/-!
# The parts of a text

What cutting and trimming give, said without cutting: where a mark stands first, what stands
on either side of a separator, of which pieces a text is made, what is left of it between the
blanks at its ends, and which number its digits denote.  Each of these is an equivalence, so
a text has the parts that are found and no others.
-/

namespace ServiceDirectory.Text

variable {s t before after mark : List Char} {sep : Char}

/-! ## Marks -/

/-- The mark stands in the text behind `before`, and nowhere further to the left. -/
structure FirstAt (mark s before after : List Char) : Prop where
  parts : s = before ++ mark ++ after
  first : ∀ before' after', s = before' ++ mark ++ after' → before.length ≤ before'.length

/-- Before the first occurrence of a mark there is no other one. -/
theorem FirstAt.unmarked (h : FirstAt mark s before after) (hmark : mark ≠ []) :
    ¬mark <:+: before := by
  rintro ⟨front, back, rfl⟩
  have hshorter := h.first front (back ++ mark ++ after) (by simp [h.parts])
  have hlength : 0 < mark.length := List.length_pos_of_ne_nil hmark
  simp only [List.length_append] at hshorter
  omega

theorem dropMark_append (mark s : List Char) : dropMark mark (mark ++ s) = some s := by
  induction mark with
  | nil => cases s <;> rfl
  | cons m mark ih => simp [dropMark, ih]

theorem eq_of_dropMark (h : dropMark mark s = some after) : s = mark ++ after := by
  induction mark generalizing s with
  | nil => cases s <;> simpa [dropMark] using h
  | cons m mark ih =>
    cases s with
    | nil => simp [dropMark] at h
    | cons c s =>
      simp only [dropMark] at h
      split at h
      · rename_i hc
        rw [hc, ih h, List.cons_append]
      · cases h

theorem dropMark_eq_none_iff : dropMark mark s = none ↔ ¬mark <+: s := by
  constructor
  · rintro hnone ⟨rest, rfl⟩
    rw [dropMark_append] at hnone
    cases hnone
  · intro hstart
    cases hdrop : dropMark mark s with
    | none => rfl
    | some rest => exact absurd ⟨rest, (eq_of_dropMark hdrop).symm⟩ hstart

/-- A mark at the beginning is the first one. -/
theorem firstAt_of_prefix (h : s = mark ++ after) : FirstAt mark s [] after :=
  ⟨h, fun _ _ _ => Nat.zero_le _⟩

theorem firstAt_cons_iff {c : Char} (hstart : ¬mark <+: c :: s) :
    FirstAt mark (c :: s) before after ↔
      ∃ before', before = c :: before' ∧ FirstAt mark s before' after := by
  constructor
  · rintro ⟨hparts, hfirst⟩
    cases before with
    | nil => exact absurd ⟨after, hparts.symm⟩ hstart
    | cons d before' =>
      simp only [List.cons_append, List.cons.injEq] at hparts
      obtain ⟨rfl, hparts⟩ := hparts
      refine ⟨before', rfl, hparts, fun front back hs => ?_⟩
      have hle := hfirst (c :: front) back (by simp [hs])
      simpa using hle
  · rintro ⟨before', rfl, hparts, hfirst⟩
    refine ⟨by simp [hparts], fun front back hs => ?_⟩
    cases front with
    | nil => exact absurd ⟨back, hs.symm⟩ hstart
    | cons d front =>
      simp only [List.cons_append, List.cons.injEq] at hs
      simpa using hfirst front back hs.2

theorem cutFirstMark_eq_some_iff :
    cutFirstMark mark s = some (before, after) ↔ FirstAt mark s before after := by
  induction s generalizing before with
  | nil =>
    rw [cutFirstMark, Option.map_eq_some_iff]
    constructor
    · rintro ⟨rest, hdrop, heq⟩
      obtain ⟨rfl, rfl⟩ := Prod.mk.inj heq
      exact firstAt_of_prefix (eq_of_dropMark hdrop)
    · rintro ⟨hparts, -⟩
      obtain ⟨rfl, rfl, rfl⟩ : before = [] ∧ mark = [] ∧ after = [] := by simpa using hparts
      exact ⟨[], rfl, rfl⟩
  | cons c s ih =>
    rw [cutFirstMark]
    cases hdrop : dropMark mark (c :: s) with
    | some rest =>
      have hstart := eq_of_dropMark hdrop
      simp only [Option.some.injEq, Prod.mk.injEq]
      constructor
      · rintro ⟨rfl, rfl⟩
        exact firstAt_of_prefix hstart
      · rintro ⟨hparts, hfirst⟩
        obtain rfl : before = [] :=
          List.length_eq_zero_iff.1 (Nat.le_zero.1 (hfirst [] rest hstart))
        exact ⟨rfl, List.append_cancel_left (hstart.symm.trans hparts)⟩
    | none =>
      rw [firstAt_cons_iff (dropMark_eq_none_iff.1 hdrop)]
      simp only [Option.map_eq_some_iff, Prod.exists, Prod.mk.injEq]
      constructor
      · rintro ⟨before', after', hcut, rfl, rfl⟩
        exact ⟨before', rfl, ih.1 hcut⟩
      · rintro ⟨before', rfl, hfirst⟩
        exact ⟨before', after, ih.2 hfirst, rfl, rfl⟩

theorem cutFirstMark_eq_none_iff : cutFirstMark mark s = none ↔ ¬mark <:+: s := by
  induction s with
  | nil => rw [cutFirstMark, Option.map_eq_none_iff, dropMark_eq_none_iff, List.prefix_nil,
      List.infix_nil]
  | cons c s ih =>
    rw [cutFirstMark, List.infix_cons_iff, not_or, ← dropMark_eq_none_iff, ← ih]
    cases dropMark mark (c :: s) with
    | some rest => simp
    | none => simp

/-! ## Separators -/

/-- The text before the first separator and the text behind it, or the whole text and nothing
where there is no separator. -/
inductive SplitsAt (sep : Char) (s : List Char) : List Char → List Char → Prop
  | found {before after : List Char} (hparts : s = before ++ sep :: after)
      (hfirst : sep ∉ before) : SplitsAt sep s before after
  | absent (hnone : sep ∉ s) : SplitsAt sep s s []

/-- There is no separator in front of the first one, and both parts are made of the characters
of the text. -/
theorem SplitsAt.spec (h : SplitsAt sep s before after) :
    sep ∉ before ∧ (∀ c ∈ before, c ∈ s) ∧ ∀ c ∈ after, c ∈ s := by
  rcases h with ⟨rfl, hfirst⟩ | hnone
  · exact ⟨hfirst, fun _ hc => List.mem_append_left _ hc,
      fun _ hc => List.mem_append_right _ (List.mem_cons_of_mem _ hc)⟩
  · exact ⟨hnone, fun _ hc => hc, nofun⟩

theorem cutFirst_eq_some_iff :
    cutFirst sep s = some (before, after) ↔ s = before ++ sep :: after ∧ sep ∉ before := by
  constructor
  · exact eq_of_cutFirst
  · rintro ⟨rfl, hfirst⟩
    exact cutFirst_append after hfirst

theorem cutLast_eq_some_iff :
    cutLast sep s = some (before, after) ↔ s = before ++ sep :: after ∧ sep ∉ after := by
  constructor
  · exact eq_of_cutLast
  · rintro ⟨rfl, hlast⟩
    exact cutLast_append before hlast

theorem cutFirst_getD_eq_iff :
    (cutFirst sep s).getD (s, []) = (before, after) ↔ SplitsAt sep s before after := by
  cases hcut : cutFirst sep s with
  | none =>
    have hnone := cutFirst_eq_none_iff.1 hcut
    rw [Option.getD_none, Prod.mk.injEq]
    constructor
    · rintro ⟨rfl, rfl⟩
      exact .absent hnone
    · rintro (⟨rfl, -⟩ | -)
      · exact absurd (List.mem_append_right _ List.mem_cons_self) hnone
      · exact ⟨rfl, rfl⟩
  | some parts =>
    rw [Option.getD_some]
    constructor
    · rintro rfl
      obtain ⟨hparts, hfirst⟩ := cutFirst_eq_some_iff.1 hcut
      exact .found hparts hfirst
    · rintro (⟨hparts, hfirst⟩ | hnone)
      · exact Option.some.inj (hcut.symm.trans (cutFirst_eq_some_iff.2 ⟨hparts, hfirst⟩))
      · rw [cutFirst_eq_none_iff.2 hnone] at hcut
        cases hcut

/-- The text is made of pieces with separators between them. -/
structure MadeOf (sep : Char) (s : List Char) (parts : List (List Char)) : Prop where
  joined : s = List.intercalate [sep] parts
  nonempty : parts ≠ []
  apart : ∀ piece ∈ parts, sep ∉ piece

theorem intercalate_pieces (sep : Char) (s : List Char) :
    List.intercalate [sep] (pieces sep s) = s := by
  induction s with
  | nil => rfl
  | cons c rest ih =>
    rw [pieces]
    split
    · rename_i hc
      obtain ⟨piece, others, hpieces⟩ := List.exists_cons_of_ne_nil (pieces_ne_nil sep rest)
      rw [hpieces, List.intercalate_cons_cons, ← hpieces, ih, hc]
      rfl
    · split
      · rename_i hnil
        exact absurd hnil (pieces_ne_nil sep rest)
      · rename_i piece others hpieces
        rw [hpieces] at ih
        rw [← ih]
        cases others with
        | nil => rfl
        | cons next others => simp only [List.intercalate_cons_cons, List.cons_append]

theorem pieces_intercalate {parts : List (List Char)} (hne : parts ≠ [])
    (hapart : ∀ piece ∈ parts, sep ∉ piece) : pieces sep (List.intercalate [sep] parts) = parts := by
  induction parts with
  | nil => exact absurd rfl hne
  | cons piece others ih =>
    have hpiece := hapart piece List.mem_cons_self
    cases others with
    | nil => rw [List.intercalate_singleton, pieces_of_not_mem hpiece]
    | cons next others =>
      have hrest := ih (List.cons_ne_nil next others) fun p hp =>
        hapart p (List.mem_cons_of_mem piece hp)
      rw [List.intercalate_cons_cons, List.append_assoc, List.singleton_append,
        pieces_append _ hpiece, hrest]

theorem pieces_eq_iff {parts : List (List Char)} : pieces sep s = parts ↔ MadeOf sep s parts := by
  constructor
  · rintro rfl
    exact ⟨(intercalate_pieces sep s).symm, pieces_ne_nil sep s, fun _ => not_mem_of_mem_pieces⟩
  · rintro ⟨rfl, hne, hapart⟩
    exact pieces_intercalate hne hapart

/-! ## Blanks at the ends -/

/-- Behind a character that is not blank, trimming the end is trimming what follows it. -/
theorem trimEnd_append_cons {c : Char} (hc : isBlank c = false) (s t : List Char) :
    trimEnd (s ++ c :: t) = s ++ c :: trimEnd t := by
  induction s with
  | nil =>
    rw [List.nil_append, List.nil_append, trimEnd]
    split
    · rename_i hnil
      rw [hc, if_neg (by decide), hnil]
    · rfl
  | cons d s ih =>
    rw [List.cons_append, trimEnd, ih]
    split
    · simp_all
    · rfl

theorem trimEnd_isPrefix (s : List Char) : trimEnd s <+: s := by
  induction s with
  | nil => exact List.prefix_rfl
  | cons c s ih =>
    rw [trimEnd]
    split
    · split
      · exact List.nil_prefix
      · exact List.cons_prefix_cons.2 ⟨rfl, List.nil_prefix⟩
    · exact List.cons_prefix_cons.2 ⟨rfl, ih⟩

theorem trimEnd_sublist (s : List Char) : (trimEnd s).Sublist s := (trimEnd_isPrefix s).sublist

/-- Trimming the end leaves the texts that end in no blank as they are. -/
theorem trimEnd_eq_self_iff : trimEnd s = s ↔ ∀ c ∈ s.getLast?, isBlank c = false := by
  induction s using List.reverseRecOn with
  | nil => simp
  | append_singleton s d _ =>
    cases hd : isBlank d with
    | false => simp [trimEnd_append_singleton hd, hd]
    | true =>
      have hlength := (trimEnd_isPrefix s).length_le
      have hne : trimEnd (s ++ [d]) ≠ s ++ [d] := by
        rw [trimEnd_append_blank hd]
        intro heq
        rw [heq, List.length_append, List.length_singleton] at hlength
        omega
      simp [hne, hd]

theorem trimStart_eq_self (h : ∀ c ∈ s.head?, isBlank c = false) : trimStart s = s := by
  cases s with
  | nil => rfl
  | cons c s => rw [trimStart, List.dropWhile_cons_of_neg (by simp [h c (by simp)])]

theorem isBlank_of_head?_trimStart {c : Char} (h : c ∈ (trimStart s).head?) :
    isBlank c = false := by
  have hhead := List.head?_dropWhile_not isBlank s
  rw [← trimStart, h] at hhead
  exact hhead

/-- Only blanks are taken off the end, and all of them. -/
theorem trimEnd_spec (s : List Char) :
    (∃ back, s = trimEnd s ++ back ∧ ∀ c ∈ back, isBlank c = true) ∧
      ∀ c ∈ (trimEnd s).getLast?, isBlank c = false := by
  induction s using List.reverseRecOn with
  | nil => exact ⟨⟨[], rfl, nofun⟩, nofun⟩
  | append_singleton s d ih =>
    cases hd : isBlank d with
    | false =>
      rw [trimEnd_append_singleton hd]
      exact ⟨⟨[], (List.append_nil _).symm, nofun⟩, by simp [hd]⟩
    | true =>
      obtain ⟨⟨back, hs, hback⟩, hlast⟩ := ih
      rw [trimEnd_append_blank hd]
      refine ⟨⟨back ++ [d], ?_, ?_⟩, hlast⟩
      · rw [← List.append_assoc, ← hs]
      · intro c hc
        rcases List.mem_append.1 hc with hc | hc
        · exact hback c hc
        · rw [List.mem_singleton.1 hc, hd]

theorem trimEnd_append_blanks (s : List Char) {back : List Char}
    (hback : ∀ c ∈ back, isBlank c = true) : trimEnd (s ++ back) = trimEnd s := by
  induction back using List.reverseRecOn with
  | nil => rw [List.append_nil]
  | append_singleton back d ih =>
    rw [← List.append_assoc, trimEnd_append_blank (hback d (by simp)),
      ih fun c hc => hback c (List.mem_append_left _ hc)]

/-- What is left of a text between the blanks at its ends. -/
structure Trimmed (s t : List Char) : Prop where
  parts : ∃ front back, s = front ++ t ++ back ∧ ∀ c ∈ front ++ back, isBlank c = true
  head : ∀ c ∈ t.head?, isBlank c = false
  last : ∀ c ∈ t.getLast?, isBlank c = false

theorem trimmed_trim (s : List Char) : Trimmed s (trim s) := by
  obtain ⟨⟨back, hparts, hback⟩, hlast⟩ := trimEnd_spec (trimStart s)
  refine ⟨⟨s.takeWhile isBlank, back, ?_, ?_⟩, ?_, hlast⟩
  · rw [trim, List.append_assoc, ← hparts, trimStart, List.takeWhile_append_dropWhile]
  · intro c hc
    rcases List.mem_append.1 hc with hc | hc
    · exact List.mem_takeWhile_imp hc
    · exact hback c hc
  · intro c hc
    refine isBlank_of_head?_trimStart (s := s) ?_
    obtain ⟨rest, hrest⟩ := trimEnd_isPrefix (trimStart s)
    cases hkept : trim s with
    | nil => simp [hkept] at hc
    | cons d kept =>
      rw [hkept] at hc
      rw [← hrest, ← trim, hkept]
      exact hc

theorem trim_eq_iff : trim s = t ↔ Trimmed s t := by
  constructor
  · rintro rfl
    exact trimmed_trim s
  · rintro ⟨⟨front, back, rfl, hblank⟩, hhead, hlast⟩
    have hfront : ∀ c ∈ front, isBlank c = true := fun c hc =>
      hblank c (List.mem_append_left _ hc)
    have hback : ∀ c ∈ back, isBlank c = true := fun c hc =>
      hblank c (List.mem_append_right _ hc)
    rw [trim, trimStart, List.append_assoc, List.dropWhile_append_of_pos hfront]
    cases t with
    | nil =>
      have hnothing : back.dropWhile isBlank = [] := List.dropWhile_eq_nil_iff.2 hback
      rw [List.nil_append, hnothing, trimEnd_nil]
    | cons c t =>
      have hstart : (c :: t ++ back).dropWhile isBlank = c :: t ++ back :=
        List.dropWhile_cons_of_neg (by simp [hhead c rfl])
      rw [hstart, trimEnd_append_blanks _ hback, trimEnd_eq_self_iff.2 hlast]

/-! ## Numerals -/

/-- The number that decimal digits denote by their places, the last one counting once. -/
def placeValue (digits : List Char) : ℕ :=
  Nat.ofDigits 10 (digits.reverse.map fun c => c.toNat - '0'.toNat)

theorem ofDigitChars_eq_placeValue (digits : List Char) :
    Nat.ofDigitChars 10 digits 0 = placeValue digits := by
  induction digits using List.reverseRecOn with
  | nil => rfl
  | append_singleton digits c ih =>
    rw [placeValue, List.reverse_concat, List.map_cons, Nat.ofDigits_cons, ← placeValue, ← ih,
      Nat.ofDigitChars, List.foldl_append, Nat.add_comm]
    rfl

theorem readDecimal_eq_some_iff {n : ℕ} :
    readDecimal s = some n ↔ s ≠ [] ∧ (∀ c ∈ s, c.isDigit = true) ∧ placeValue s = n := by
  rw [readDecimal, ofDigitChars_eq_placeValue]
  split
  · rename_i hbad
    rw [Bool.or_eq_true, List.isEmpty_iff, Bool.not_eq_true', ← Bool.not_eq_true,
      List.all_eq_true] at hbad
    constructor
    · intro hnone
      cases hnone
    · rintro ⟨hne, hdigits, -⟩
      exact absurd hbad (not_or.2 ⟨hne, not_not.2 hdigits⟩)
  · rename_i hgood
    rw [Bool.or_eq_true, List.isEmpty_iff, Bool.not_eq_true', ← Bool.not_eq_true,
      List.all_eq_true, not_or, not_not] at hgood
    rw [Option.some.injEq]
    exact ⟨fun h => ⟨hgood.1, hgood.2, h⟩, fun h => h.2.2⟩

end ServiceDirectory.Text
