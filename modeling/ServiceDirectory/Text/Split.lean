/-!
# Cutting a text at a mark

Each function cuts a text at one occurrence of a separator, or at all of them, and
drops the separator.  The lemmas say that a cut loses nothing but the separator and
that the part on the far side of the chosen occurrence holds no other one.
-/

namespace ServiceDirectory.Text

/-- The parts before and after the first `sep`. -/
def cutFirst (sep : Char) : List Char → Option (List Char × List Char)
  | [] => none
  | c :: rest =>
    if c = sep then some ([], rest)
    else (cutFirst sep rest).map fun (before, after) => (c :: before, after)

/-- The parts before and after the last `sep`. -/
def cutLast (sep : Char) : List Char → Option (List Char × List Char)
  | [] => none
  | c :: rest =>
    match cutLast sep rest with
    | some (before, after) => some (c :: before, after)
    | none => if c = sep then some ([], rest) else none

/-- What is left of `s` after it starts with `mark`, if it does. -/
def dropMark : (mark s : List Char) → Option (List Char)
  | [], s => some s
  | _ :: _, [] => none
  | m :: mark, c :: s => if m = c then dropMark mark s else none

/-- The parts before and after the first occurrence of `mark`. -/
def cutFirstMark (mark : List Char) : List Char → Option (List Char × List Char)
  | [] => (dropMark mark []).map fun after => ([], after)
  | c :: rest =>
    match dropMark mark (c :: rest) with
    | some after => some ([], after)
    | none => (cutFirstMark mark rest).map fun (before, after) => (c :: before, after)

/-- The texts between the occurrences of `sep`; one more than there are occurrences. -/
def pieces (sep : Char) : List Char → List (List Char)
  | [] => [[]]
  | c :: rest =>
    if c = sep then [] :: pieces sep rest
    else
      match pieces sep rest with
      | [] => [[c]]
      | piece :: others => (c :: piece) :: others

attribute [local simp] cutFirst cutLast pieces

theorem pieces_ne_nil (sep : Char) (s : List Char) : pieces sep s ≠ [] := by
  cases s with
  | nil => simp
  | cons c rest =>
    unfold pieces
    split
    · simp
    · split <;> simp

/-- A text without the separator is one piece. -/
theorem pieces_of_not_mem {sep : Char} {s : List Char} (h : sep ∉ s) : pieces sep s = [s] := by
  induction s with
  | nil => simp
  | cons c rest ih =>
    simp only [List.mem_cons, not_or] at h
    simp [Ne.symm h.1, ih h.2]

/-- What stands before a separator is the first piece, if it holds no other one. -/
theorem pieces_append {sep : Char} {s : List Char} (rest : List Char) (h : sep ∉ s) :
    pieces sep (s ++ sep :: rest) = s :: pieces sep rest := by
  induction s with
  | nil => simp
  | cons c before ih =>
    simp only [List.mem_cons, not_or] at h
    simp [Ne.symm h.1, ih h.2]

/-- No piece holds the separator. -/
theorem not_mem_of_mem_pieces {sep : Char} {s piece : List Char} (h : piece ∈ pieces sep s) :
    sep ∉ piece := by
  induction s generalizing piece with
  | nil => simp_all
  | cons c rest ih =>
    by_cases hc : c = sep
    · rw [pieces, if_pos hc] at h
      rcases List.mem_cons.1 h with rfl | h
      · simp
      · exact ih h
    · rw [pieces, if_neg hc] at h
      split at h
      · rename_i hnil
        exact absurd hnil (pieces_ne_nil sep rest)
      · rename_i first others hrest
        rcases List.mem_cons.1 h with rfl | h
        · have hfirst : sep ∉ first := ih (by simp [hrest])
          simp [hfirst, Ne.symm hc]
        · exact ih (by simp [hrest, h])

theorem eq_of_cutFirst {sep : Char} {s before after : List Char}
    (h : cutFirst sep s = some (before, after)) : s = before ++ sep :: after ∧ sep ∉ before := by
  induction s generalizing before after with
  | nil => simp at h
  | cons c rest ih =>
    by_cases hc : c = sep
    · simp_all
    · simp only [cutFirst, hc, if_false, Option.map_eq_some_iff, Prod.mk.injEq] at h
      obtain ⟨⟨before', after'⟩, hrest, rfl, rfl⟩ := h
      have := ih hrest
      exact ⟨by rw [this.1]; simp, by simp [this.2, Ne.symm hc]⟩

theorem cutFirst_append {sep : Char} {before : List Char} (after : List Char)
    (h : sep ∉ before) : cutFirst sep (before ++ sep :: after) = some (before, after) := by
  induction before with
  | nil => simp
  | cons c rest ih =>
    simp only [List.mem_cons, not_or] at h
    simp [Ne.symm h.1, ih h.2]

theorem cutFirst_eq_none_iff {sep : Char} {s : List Char} : cutFirst sep s = none ↔ sep ∉ s := by
  induction s with
  | nil => simp
  | cons c rest ih =>
    by_cases hc : c = sep
    · simp [hc]
    · simp [hc, ih, Ne.symm hc]

theorem cutLast_eq_none_iff {sep : Char} {s : List Char} : cutLast sep s = none ↔ sep ∉ s := by
  induction s with
  | nil => simp
  | cons c rest ih =>
    rw [cutLast]
    split
    · rename_i before after heq
      have hmem : sep ∈ rest := by
        apply Decidable.byContradiction
        intro hnot
        simp [ih.2 hnot] at heq
      simp [hmem]
    · rename_i heq
      by_cases hc : c = sep
      · simp [hc]
      · simp [hc, ih.1 heq, Ne.symm hc]

theorem eq_of_cutLast {sep : Char} {s before after : List Char}
    (h : cutLast sep s = some (before, after)) : s = before ++ sep :: after ∧ sep ∉ after := by
  induction s generalizing before after with
  | nil => simp at h
  | cons c rest ih =>
    rw [cutLast] at h
    split at h
    · rename_i before' after' heq
      simp only [Option.some.injEq, Prod.mk.injEq] at h
      obtain ⟨rfl, rfl⟩ := h
      have := ih heq
      exact ⟨by rw [this.1]; simp, this.2⟩
    · rename_i heq
      by_cases hc : c = sep
      · simp only [hc, if_true, Option.some.injEq, Prod.mk.injEq] at h
        obtain ⟨rfl, rfl⟩ := h
        exact ⟨by simp [hc], cutLast_eq_none_iff.1 heq⟩
      · simp [hc] at h

theorem cutLast_append {sep : Char} (before : List Char) {after : List Char}
    (h : sep ∉ after) : cutLast sep (before ++ sep :: after) = some (before, after) := by
  induction before with
  | nil => simp [cutLast_eq_none_iff.2 h]
  | cons c rest ih => simp [ih]

end ServiceDirectory.Text
