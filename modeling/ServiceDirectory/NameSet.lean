/-!
# Sets of names in order

Distinct texts listed in ascending order, code point by code point.  `mem_sortedNames` and
`pairwise_sortedNames` say that sorting keeps exactly the names that were given and puts
each in its one place.
-/

namespace ServiceDirectory

/-- Puts a name in its place in an ascending list, unless it is there. -/
def insertName : List String → String → List String
  | [], x => [x]
  | y :: rest, x =>
    if x < y then x :: y :: rest else if x = y then y :: rest else y :: insertName rest x

/-- The distinct names of a list in ascending order. -/
def sortedNames (names : List String) : List String := names.foldl insertName []

@[simp]
theorem mem_insertName {names : List String} {x y : String} :
    y ∈ insertName names x ↔ y = x ∨ y ∈ names := by
  induction names with
  | nil => simp [insertName]
  | cons z rest ih =>
    unfold insertName
    split
    · simp
    · split
      · rename_i heq
        subst heq
        simp
      · simp only [List.mem_cons, ih]
        constructor
        · rintro (h | h | h) <;> simp [h]
        · rintro (h | h | h) <;> simp [h]

theorem mem_foldl_insertName {names start : List String} {x : String} :
    x ∈ names.foldl insertName start ↔ x ∈ start ∨ x ∈ names := by
  induction names generalizing start with
  | nil => simp
  | cons y rest ih =>
    rw [List.foldl_cons, ih, mem_insertName, List.mem_cons]
    constructor
    · rintro ((h | h) | h) <;> simp [h]
    · rintro (h | h | h) <;> simp [h]

/-- Sorting neither loses nor adds a name. -/
@[simp]
theorem mem_sortedNames {names : List String} {x : String} :
    x ∈ sortedNames names ↔ x ∈ names := by
  simp [sortedNames, mem_foldl_insertName]

theorem pairwise_insertName {names : List String} (h : names.Pairwise (· < ·)) (x : String) :
    (insertName names x).Pairwise (· < ·) := by
  induction names with
  | nil => simp [insertName]
  | cons y rest ih =>
    obtain ⟨hy, hrest⟩ := List.pairwise_cons.1 h
    unfold insertName
    split
    · rename_i hlt
      refine List.pairwise_cons.2 ⟨fun z hz => ?_, h⟩
      rcases List.mem_cons.1 hz with rfl | hz
      · exact hlt
      · exact String.lt_trans hlt (hy z hz)
    · split
      · exact h
      · rename_i hnlt hne
        refine List.pairwise_cons.2 ⟨fun z hz => ?_, ih hrest⟩
        rcases mem_insertName.1 hz with rfl | hz
        · apply String.not_le.1
          intro hle
          exact hne (String.le_antisymm hle (String.not_lt.1 hnlt))
        · exact hy z hz

/-- Sorted names ascend, so none comes twice. -/
theorem pairwise_sortedNames (names : List String) : (sortedNames names).Pairwise (· < ·) := by
  have hfold : ∀ start : List String, start.Pairwise (· < ·) →
      (names.foldl insertName start).Pairwise (· < ·) := by
    induction names with
    | nil => exact fun _ hstart => hstart
    | cons x rest ih => exact fun start hstart => ih _ (pairwise_insertName hstart x)
  exact hfold [] .nil

end ServiceDirectory
