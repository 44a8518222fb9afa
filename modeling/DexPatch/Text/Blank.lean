namespace DexPatch.Text

/-!
# Blank characters and splitting

Unicode's white space, trimming by it, and cutting a text at a character.
-/

/-- The characters with Unicode's White_Space property. -/
def isBlank (c : Char) : Bool :=
  let n := c.toNat
  (0x09 ≤ n && n ≤ 0x0d) || n == 0x20 || n == 0x85 || n == 0xa0 || n == 0x1680 ||
    (0x2000 ≤ n && n ≤ 0x200a) || n == 0x2028 || n == 0x2029 || n == 0x202f ||
    n == 0x205f || n == 0x3000

/-- A text without the blanks at its two ends. -/
def trim (text : List Char) : List Char :=
  ((text.dropWhile isBlank).reverse.dropWhile isBlank).reverse

/-- The pieces of a text between the occurrences of a separator: one more than there are. -/
def splitAt (separator : Char) : List Char → List (List Char)
  | [] => [[]]
  | c :: rest =>
    if c = separator then
      [] :: splitAt separator rest
    else
      match splitAt separator rest with
      | [] => [[c]]
      | piece :: pieces => (c :: piece) :: pieces

/-- The text before and after the first occurrence of a separator. -/
def cutAt (separator : Char) : List Char → Option (List Char × List Char)
  | [] => none
  | c :: rest =>
    if c = separator then
      some ([], rest)
    else
      (cutAt separator rest).map fun (before, after) => (c :: before, after)

theorem splitAt_ne_nil (separator : Char) (text : List Char) : splitAt separator text ≠ [] := by
  induction text with
  | nil => simp [splitAt]
  | cons c rest ih =>
    rw [splitAt]
    split
    · simp
    · split <;> simp

/-- Splitting loses nothing but the separators. -/
theorem intercalate_splitAt (separator : Char) (text : List Char) :
    [separator].intercalate (splitAt separator text) = text := by
  induction text with
  | nil => rfl
  | cons c rest ih =>
    rw [splitAt]
    split
    · rename_i same
      cases pieces : splitAt separator rest with
      | nil => exact absurd pieces (splitAt_ne_nil separator rest)
      | cons piece others =>
        rw [pieces] at ih
        rw [List.intercalate_cons_cons, ih, same]
        rfl
    · split
      · rename_i pieces
        exact absurd pieces (splitAt_ne_nil separator rest)
      · rename_i piece others pieces
        rw [pieces] at ih
        cases others with
        | nil => simpa using ih
        | cons next others =>
          rw [List.intercalate_cons_cons] at ih ⊢
          rw [← ih]
          rfl

/-- No piece holds a separator. -/
theorem notMem_of_mem_splitAt {separator : Char} {text piece : List Char}
    (member : piece ∈ splitAt separator text) : separator ∉ piece := by
  induction text generalizing piece with
  | nil =>
    have : piece = [] := by simpa [splitAt] using member
    simp [this]
  | cons c rest ih =>
    rw [splitAt] at member
    split at member
    · rcases List.mem_cons.mp member with rfl | later
      · simp
      · exact ih later
    · rename_i different
      split at member
      · have : piece = [c] := by simpa using member
        simpa [this] using fun same => different same.symm
      · rename_i first others pieces
        rcases List.mem_cons.mp member with rfl | later
        · have inner : separator ∉ first := ih (by simp [pieces])
          simpa [inner] using fun same => different same.symm
        · exact ih (by simp [pieces, later])

/-- The cut is at the first occurrence of the separator. -/
theorem cutAt_eq_some_iff {separator : Char} {text before after : List Char} :
    cutAt separator text = some (before, after) ↔
      text = before ++ separator :: after ∧ separator ∉ before := by
  induction text generalizing before with
  | nil => simp [cutAt]
  | cons c rest ih =>
    rw [cutAt]
    by_cases same : c = separator
    · cases before with
      | nil => simp [same]
      | cons b before => simp [same]; grind
    · cases before with
      | nil => simp [same]
      | cons b before =>
        have step := @ih before
        simp only [same, if_false, Option.map_eq_some_iff, Prod.exists, Prod.mk.injEq,
          List.cons.injEq, List.cons_append, List.mem_cons, not_or]
        grind

/-- There is no cut exactly where there is no separator. -/
theorem cutAt_eq_none_iff {separator : Char} {text : List Char} :
    cutAt separator text = none ↔ separator ∉ text := by
  induction text with
  | nil => simp [cutAt]
  | cons c rest ih =>
    rw [cutAt]
    by_cases same : c = separator
    · simp [same]
    · have different : separator ≠ c := fun equal => same equal.symm
      simp [same, ih, different]

end DexPatch.Text
