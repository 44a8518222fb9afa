import DexPatch.Image.Layout
import DexPatch.Image.Writer
import DexPatch.Proofs.Held

namespace DexPatch

/-!
# Pieces that stay where they are put

Laying pieces out only ever appends, so an image that has the data as a whole
has it as it was at each step, and holds every piece at the offset that was
remembered for it.  A table of offsets leads each key to an offset that was
remembered for an equal key.
-/

/-- Appending a list to an array adds its length. -/
theorem size_append_list (bytes : Bytes) (piece : List UInt8) :
    (bytes ++ piece).size = bytes.size + piece.length := by
  rw [← Array.length_toList, Array.toList_appendList, List.length_append, Array.length_toList]

namespace Layout

/-- The image has the data of the layout. -/
def Within (layout : Layout) (image : Bytes) : Prop :=
  Holds image layout.base layout.bytes.toList

/-- The later layout has the same base and starts with the same data. -/
def Extends (layout later : Layout) : Prop :=
  later.base = layout.base ∧ layout.bytes.toList <+: later.bytes.toList

theorem Extends.refl (layout : Layout) : layout.Extends layout :=
  ⟨rfl, List.prefix_refl _⟩

theorem Extends.trans {first second third : Layout} (early : first.Extends second)
    (late : second.Extends third) : first.Extends third :=
  ⟨late.1.trans early.1, early.2.trans late.2⟩

/-- An image with the later data has the earlier. -/
theorem Within.of_extends {layout later : Layout} {image : Bytes} (within : later.Within image)
    (extension : layout.Extends later) : layout.Within image := by
  obtain ⟨sameBase, rest, shape⟩ := extension
  unfold Within at within ⊢
  rw [sameBase, ← shape] at within
  exact within.left

theorem extends_align (layout : Layout) (unit : Nat) : layout.Extends (layout.align unit) :=
  ⟨rfl, by simp [align]⟩

theorem extends_append (layout : Layout) (piece : List UInt8) :
    layout.Extends (layout.append piece) :=
  ⟨rfl, by simp [append]⟩

/-- What is appended is held at the end of what was there. -/
theorem holds_of_append {layout : Layout} {piece : List UInt8} {image : Bytes}
    (within : (layout.append piece).Within image) : Holds image layout.position piece := by
  unfold Within at within
  rw [append, Array.toList_appendList] at within
  simpa [position] using within.right

/-- An absent piece has offset zero, and any other one is held at its offset by every image that
has the data. -/
def Placed (layout : Layout) : Option (List UInt8) → Nat → Prop
  | none, offset => offset = 0
  | some piece, offset =>
    layout.base ≤ offset ∧ ∀ image, layout.Within image → Holds image offset piece

/-- Pieces stay where they are when more is put behind them. -/
theorem Placed.of_extends
    {layout later : Layout}
    {piece : Option (List UInt8)}
    {offset : Nat}
    (placed : layout.Placed piece offset)
    (extension : layout.Extends later) :
    later.Placed piece offset := by
  cases piece with
  | none =>
      exact placed
  | some piece =>
      obtain ⟨behind, held⟩ := placed
      refine ⟨?_, fun image within => held image (within.of_extends extension)⟩
      rw [extension.1]
      exact behind

/-- Placing one piece extends the layout and remembers an offset at which the piece is. -/
theorem placeOne_spec
    (unit : Nat)
    (layout : Layout)
    (offsets : Array Nat)
    (piece : Option (List UInt8)) :
    ∃ later offset,
      placeOne unit (layout, offsets) piece = (later, offsets.push offset) ∧
        layout.Extends later ∧
        later.Placed piece offset := by
  cases piece with
  | none =>
      exact ⟨layout, 0, rfl, Extends.refl layout, rfl⟩
  | some piece =>
      refine ⟨(layout.align unit).append piece, (layout.align unit).position, rfl,
        (extends_align layout unit).trans (extends_append _ piece), ?_,
        fun image within => holds_of_append within⟩
      show layout.base ≤ (layout.align unit).position
      simp [position, align]

/-- Placing pieces extends the layout and remembers one offset for each of them. -/
theorem foldl_placeOne_spec
    (unit : Nat)
    (pieces : List (Option (List UInt8)))
    (layout : Layout)
    (offsets : Array Nat) :
    ∃ (later : Layout) (added : List Nat),
      pieces.foldl (placeOne unit) (layout, offsets) = (later, offsets ++ added) ∧
        layout.Extends later ∧
        added.length = pieces.length ∧
        ∀ entry ∈ List.zip pieces added, later.Placed entry.1 entry.2 := by
  induction pieces generalizing layout offsets with
  | nil =>
      exact ⟨layout, [], by simp, Extends.refl layout, rfl, by simp⟩
  | cons piece rest inductionHypothesis =>
      obtain ⟨middle, offset, step, extendsFirst, placed⟩ :=
        placeOne_spec unit layout offsets piece
      obtain ⟨later, added, steps, extendsRest, length, each⟩ :=
        inductionHypothesis middle (offsets.push offset)
      refine ⟨later, offset :: added, ?_, extendsFirst.trans extendsRest, by simp [length], ?_⟩
      · rw [List.foldl_cons, step, steps]
        simp
      · intro entry member
        rcases List.mem_cons.mp member with rfl | later
        · exact placed.of_extends extendsRest
        · exact each entry later

/-- Each piece is at its offset of a list of as many. -/
def AllPlaced (layout : Layout) (pieces : List (Option (List UInt8))) (offsets : List Nat) :
    Prop :=
  offsets.length = pieces.length ∧
    ∀ entry ∈ List.zip pieces offsets, layout.Placed entry.1 entry.2

/-- Placing pieces extends the layout, and all of them are where it remembers. -/
theorem place_spec
    (layout : Layout)
    (unit : Nat)
    (pieces : List (Option (List UInt8))) :
    layout.Extends (layout.place unit pieces).1 ∧
      (layout.place unit pieces).1.AllPlaced pieces (layout.place unit pieces).2 := by
  obtain ⟨later, added, steps, extension, length, each⟩ :=
    foldl_placeOne_spec unit pieces layout #[]
  have placing : layout.place unit pieces = (later, added) := by
    rw [place, steps]
    simp
  rw [placing]
  exact ⟨extension, length, each⟩

/-- A stage extends the layout that it starts from and places all its pieces. -/
theorem stage_spec
    (layout : Layout)
    (kind : SectionKind)
    (unit : Nat)
    (pieces : List (Option (List UInt8))) :
    layout.Extends (layout.stage kind unit pieces).layout ∧
      (layout.stage kind unit pieces).layout.AllPlaced pieces
        (layout.stage kind unit pieces).offsets := by
  obtain ⟨extension, placed⟩ := (layout.align unit).place_spec unit pieces
  exact ⟨(extends_align layout unit).trans extension, placed⟩

theorem position_append (layout : Layout) (piece : List UInt8) :
    (layout.append piece).position = layout.position + piece.length := by
  simp [position, append, size_append_list, Nat.add_assoc]

theorem position_align (layout : Layout) (unit : Nat) :
    (layout.align unit).position = layout.position + padding unit layout.position := by
  have appended :=
    layout.position_append (List.replicate (padding unit layout.position) (0 : UInt8))
  rwa [List.length_replicate] at appended

/-- An aligned layout ends at a multiple of the unit. -/
theorem position_align_mod (layout : Layout) {unit : Nat} (positive : 0 < unit) :
    (layout.align unit).position % unit = 0 := by
  rw [position_align, padding]
  have remainder := Nat.mod_lt layout.position positive
  by_cases multiple : layout.position % unit = 0
  · simp [multiple]
  · have short : (unit - layout.position % unit) % unit = unit - layout.position % unit :=
      Nat.mod_eq_of_lt (by omega)
    rw [short, Nat.add_mod, short,
      show layout.position % unit + (unit - layout.position % unit) = unit by omega, Nat.mod_self]

/-- Aligning twice is aligning once. -/
theorem position_align_align (layout : Layout) {unit : Nat} (positive : 0 < unit) :
    ((layout.align unit).align unit).position = (layout.align unit).position := by
  rw [position_align, padding, position_align_mod layout positive]
  simp

/-- A single piece is where its section starts, at a multiple of the unit. -/
theorem stage_single
    (layout : Layout)
    (kind : SectionKind)
    {unit : Nat}
    (positive : 0 < unit)
    (piece : List UInt8) :
    (layout.stage kind unit [some piece]).offsets =
        [(layout.stage kind unit [some piece]).entry.offset] ∧
      (layout.stage kind unit [some piece]).entry.offset % unit = 0 ∧
      (layout.stage kind unit [some piece]).layout.position =
        (layout.stage kind unit [some piece]).entry.offset + piece.length := by
  have once := position_align_align layout positive
  refine ⟨?_, position_align_mod layout positive, ?_⟩
  · show [((layout.align unit).align unit).position] = [(layout.align unit).position]
    rw [once]
  · show (((layout.align unit).align unit).append piece).position =
      (layout.align unit).position + piece.length
    rw [position_append, once]

/-- Zeros stand between the end of a layout and the next multiple of a unit. -/
theorem holds_of_align {layout : Layout} {unit : Nat} {image : Bytes}
    (within : (layout.align unit).Within image) :
    Holds image layout.position (List.replicate (padding unit layout.position) 0) :=
  holds_of_append (show (layout.append _).Within image from within)

theorem AllPlaced.of_extends
    {layout later : Layout}
    {pieces : List (Option (List UInt8))}
    {offsets : List Nat}
    (placed : layout.AllPlaced pieces offsets)
    (extension : layout.Extends later) :
    later.AllPlaced pieces offsets :=
  ⟨placed.1, fun entry member => (placed.2 entry member).of_extends extension⟩

/-- An image with the data holds each piece at its offset. -/
theorem AllPlaced.holds
    {layout : Layout}
    {pieces : List (Option (List UInt8))}
    {offsets : List Nat}
    {image : Bytes}
    {piece : List UInt8}
    {offset : Nat}
    (placed : layout.AllPlaced pieces offsets)
    (within : layout.Within image)
    (member : (some piece, offset) ∈ List.zip pieces offsets) :
    layout.base ≤ offset ∧ Holds image offset piece := by
  obtain ⟨behind, held⟩ := placed.2 _ member
  exact ⟨behind, held image within⟩

end Layout

/-! ## Sharing -/

section Sharing

variable {α : Type} [BEq α] [Hashable α] [LawfulBEq α]

/-- What was seen stays among the different elements, and every element gets there. -/
theorem mem_foldl_distinctStep
    (list : List α)
    {state : Std.HashSet α × Array α}
    (seen : ∀ x, x ∈ state.1 → x ∈ state.2)
    {x : α}
    (member : x ∈ state.2 ∨ x ∈ list) :
    x ∈ (list.foldl distinctStep state).2 := by
  induction list generalizing state with
  | nil =>
      simpa using member
  | cons y rest inductionHypothesis =>
      rw [List.foldl_cons]
      unfold distinctStep
      split
      · next again =>
          refine inductionHypothesis seen ?_
          rcases member with early | late
          · exact .inl early
          · rcases List.mem_cons.mp late with rfl | later
            · exact .inl (seen x (Std.HashSet.mem_iff_contains.mpr again))
            · exact .inr later
      · refine inductionHypothesis ?_ ?_
        · intro z inserted
          rcases Std.HashSet.mem_insert.mp inserted with same | before
          · rw [← eq_of_beq same]
            exact Array.mem_push_self
          · exact Array.mem_push.mpr (.inl (seen z before))
        · rcases member with early | late
          · exact .inl (Array.mem_push.mpr (.inl early))
          · rcases List.mem_cons.mp late with rfl | later
            · exact .inl Array.mem_push_self
            · exact .inr later

/-- Nothing is lost when repetitions are dropped. -/
theorem mem_distinct {list : List α} {x : α} (member : x ∈ list) : x ∈ distinct list :=
  Array.mem_toList_iff.mpr (mem_foldl_distinctStep list (by simp) (.inr member))

omit [LawfulBEq α] in
/-- Only what was there or is in the list gets among the different elements. -/
theorem of_mem_foldl_distinctStep
    {list : List α}
    {state : Std.HashSet α × Array α}
    {x : α}
    (member : x ∈ (list.foldl distinctStep state).2) :
    x ∈ state.2 ∨ x ∈ list := by
  induction list generalizing state with
  | nil =>
      exact .inl member
  | cons y rest inductionHypothesis =>
      rw [List.foldl_cons] at member
      unfold distinctStep at member
      split at member
      · exact (inductionHypothesis member).imp_right (List.mem_cons_of_mem _)
      · rcases inductionHypothesis member with early | late
        · rcases Array.mem_push.mp early with before | rfl
          · exact .inl before
          · exact .inr List.mem_cons_self
        · exact .inr (List.mem_cons_of_mem _ late)

/-- Dropping repetitions keeps all elements and adds none. -/
theorem mem_distinct_iff {list : List α} {x : α} : x ∈ distinct list ↔ x ∈ list := by
  refine ⟨fun member => ?_, mem_distinct⟩
  rcases of_mem_foldl_distinctStep (Array.mem_toList_iff.mp member) with early | late
  · simp at early
  · exact late

/-- No element that was seen gets among the different elements once more. -/
theorem nodup_foldl_distinctStep
    (list : List α)
    {state : Std.HashSet α × Array α}
    (seen : ∀ x ∈ state.2, x ∈ state.1)
    (different : state.2.toList.Nodup) :
    (list.foldl distinctStep state).2.toList.Nodup := by
  induction list generalizing state with
  | nil =>
      exact different
  | cons y rest inductionHypothesis =>
      rw [List.foldl_cons]
      unfold distinctStep
      split
      · exact inductionHypothesis seen different
      · next fresh =>
          have absent : y ∉ state.2 := fun member =>
            fresh (Std.HashSet.mem_iff_contains.mp (seen y member))
          refine inductionHypothesis ?_ ?_
          · intro x member
            refine Std.HashSet.mem_insert.mpr ?_
            rcases Array.mem_push.mp member with before | rfl
            · exact .inr (seen x before)
            · exact .inl BEq.rfl
          · rw [Array.toList_push]
            refine List.nodup_append.mpr ⟨different, List.pairwise_singleton _ y, ?_⟩
            rintro x isOld z isNew rfl
            rw [List.mem_singleton] at isNew
            exact absent (isNew ▸ Array.mem_toList_iff.mp isOld)

/-- Each element is among the different ones once. -/
theorem nodup_distinct (list : List α) : (distinct list).Nodup :=
  nodup_foldl_distinctStep list (by simp) (by simp)

/-- A key that is put into a table leads to what stood beside it or beside an equal key. -/
theorem getElem?_foldl_insert
    (entries : List (α × Nat))
    (table : Std.HashMap α Nat)
    (key : α) :
    (∃ offset,
        (entries.foldl (fun table (key, offset) => table.insert key offset) table)[key]? =
            some offset ∧
          (key, offset) ∈ entries) ∨
      ((entries.foldl (fun table (key, offset) => table.insert key offset) table)[key]? =
          table[key]? ∧
        ∀ offset, (key, offset) ∉ entries) := by
  induction entries generalizing table with
  | nil =>
      exact .inr ⟨rfl, by simp⟩
  | cons entry rest inductionHypothesis =>
      obtain ⟨first, offset⟩ := entry
      rw [List.foldl_cons]
      rcases inductionHypothesis (table.insert first offset) with
        ⟨found, looked, member⟩ | ⟨looked, absent⟩
      · exact .inl ⟨found, looked, List.mem_cons_of_mem _ member⟩
      · rw [Std.HashMap.getElem?_insert] at looked
        by_cases same : first = key
        · subst same
          exact .inl ⟨offset, by simpa using looked, by simp⟩
        · refine .inr ⟨by simpa [same] using looked, fun other member => ?_⟩
          rcases List.mem_cons.mp member with here | later
          · exact same (congrArg Prod.fst here).symm
          · exact absent other later

/-- A table has an offset for each key that it was made with, one that stood beside it. -/
theorem getElem?_offsetTable
    {keys : List α}
    {offsets : List Nat}
    {key : α}
    (member : key ∈ keys)
    (sameLength : offsets.length = keys.length) :
    ∃ offset,
      (offsetTable keys offsets)[key]? = some offset ∧ (key, offset) ∈ List.zip keys offsets := by
  rcases getElem?_foldl_insert (List.zip keys offsets) ∅ key with found | ⟨-, absent⟩
  · exact found
  · obtain ⟨i, inside, rfl⟩ := List.getElem_of_mem member
    have bound : i < offsets.length := by omega
    refine absurd ?_ (absent offsets[i])
    exact List.mem_iff_getElem.mpr ⟨i, by simp; omega, by simp⟩

theorem mem_zip_of_offsetIn
    {keys : List α}
    {offsets : List Nat}
    {key : α}
    (member : key ∈ keys)
    (sameLength : offsets.length = keys.length) :
    (key, offsetIn (offsetTable keys offsets) key) ∈ List.zip keys offsets := by
  obtain ⟨offset, looked, beside⟩ := getElem?_offsetTable member sameLength
  rwa [offsetIn, looked]

/-- The piece of each key is at the offset that a table has for the key. -/
theorem Layout.AllPlaced.placed_offsetIn
    {layout : Layout}
    {keys : List α}
    {bytes : α → List UInt8}
    {offsets : List Nat}
    {key : α}
    (placed : layout.AllPlaced (keys.map fun key => some (bytes key)) offsets)
    (member : key ∈ keys) :
    layout.Placed (some (bytes key)) (offsetIn (offsetTable keys offsets) key) := by
  have sameLength : offsets.length = keys.length := by simpa using placed.1
  have beside := mem_zip_of_offsetIn member sameLength
  refine placed.2 (some (bytes key), offsetIn (offsetTable keys offsets) key) ?_
  rw [List.zip_map_left]
  exact List.mem_map.mpr ⟨_, beside, rfl⟩

end Sharing

end DexPatch
