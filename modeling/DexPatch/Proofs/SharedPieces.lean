import Mathlib.Data.List.Induction
import DexPatch.Image.AnnotationWriter
import DexPatch.Proofs.Regions

namespace DexPatch

/-!
# Pieces that are written once

A pass that puts a piece wherever its key has none yet lays out the pieces of
the different keys, in the order in which the keys first come, and its table
leads each key to its piece.  So equal pieces share one place, and whoever
asks for an offset finds one.
-/

/-! ## Placing piece by piece -/

namespace Layout

/-- No zeros stand in front of a multiple of the unit. -/
theorem align_of_mod
    {layout : Layout}
    {unit : Nat}
    (aligned : layout.position % unit = 0) :
    layout.align unit = layout := by
  simp [align, padding, aligned]

theorem align_one (layout : Layout) : layout.align 1 = layout :=
  align_of_mod (Nat.mod_one _)

/-- The layout with one more piece, and the offset of it. -/
def placed (layout : Layout) (unit : Nat) : Option (List UInt8) → Layout × Nat
  | none => (layout, 0)
  | some piece => ((layout.align unit).append piece, (layout.align unit).position)

theorem placeOne_eq
    (layout : Layout)
    (unit : Nat)
    (offsets : Array Nat)
    (piece : Option (List UInt8)) :
    placeOne unit (layout, offsets) piece =
      ((layout.placed unit piece).1, offsets.push (layout.placed unit piece).2) := by
  cases piece <;> rfl

/-- Pieces are placed alike whatever was placed before them. -/
theorem foldl_placeOne
    (layout : Layout)
    (unit : Nat)
    (pieces : List (Option (List UInt8)))
    (offsets : Array Nat) :
    pieces.foldl (placeOne unit) (layout, offsets) =
      ((layout.place unit pieces).1, offsets ++ (layout.place unit pieces).2) := by
  induction pieces generalizing layout offsets with
  | nil =>
      simp [place]
  | cons piece rest inductionHypothesis =>
      have fromNothing :
          layout.place unit (piece :: rest) =
            (((layout.placed unit piece).1.place unit rest).1,
              (layout.placed unit piece).2 ::
                ((layout.placed unit piece).1.place unit rest).2) := by
        rw [place, List.foldl_cons, placeOne_eq, inductionHypothesis]
        simp
      rw [List.foldl_cons, placeOne_eq, inductionHypothesis, fromNothing]
      simp

@[simp] theorem place_nil (layout : Layout) (unit : Nat) : layout.place unit [] = (layout, []) :=
  rfl

/-- The first piece is placed, and then the others behind it. -/
theorem place_cons
    (layout : Layout)
    (unit : Nat)
    (piece : Option (List UInt8))
    (rest : List (Option (List UInt8))) :
    layout.place unit (piece :: rest) =
      (((layout.placed unit piece).1.place unit rest).1,
        (layout.placed unit piece).2 :: ((layout.placed unit piece).1.place unit rest).2) := by
  rw [place, List.foldl_cons, placeOne_eq, foldl_placeOne]
  simp

/-- Some pieces are placed, and then others behind them. -/
theorem place_append
    (layout : Layout)
    (unit : Nat)
    (first second : List (Option (List UInt8))) :
    layout.place unit (first ++ second) =
      (((layout.place unit first).1.place unit second).1,
        (layout.place unit first).2 ++ ((layout.place unit first).1.place unit second).2) := by
  induction first generalizing layout with
  | nil =>
      rfl
  | cons piece rest inductionHypothesis =>
      rw [List.cons_append, place_cons, inductionHypothesis, place_cons]
      rfl

@[simp] theorem length_place
    (layout : Layout)
    (unit : Nat)
    (pieces : List (Option (List UInt8))) :
    (layout.place unit pieces).2.length = pieces.length :=
  (layout.place_spec unit pieces).2.1

/-- Pieces whose lengths are multiples of the unit stand one behind the other. -/
theorem toList_place
    {α : Type}
    {layout : Layout}
    {unit : Nat}
    {piece : α → List UInt8}
    (multiple : ∀ key, (piece key).length % unit = 0)
    (aligned : layout.position % unit = 0)
    (keys : List α) :
    (layout.place unit (keys.map fun key => some (piece key))).1.bytes.toList =
      layout.bytes.toList ++ keys.flatMap piece := by
  induction keys generalizing layout with
  | nil =>
      simp
  | cons key rest inductionHypothesis =>
      have next : (layout.append (piece key)).position % unit = 0 := by
        rw [position_append, Nat.add_mod, aligned, multiple key, Nat.zero_add, Nat.zero_mod]
      rw [List.map_cons, place_cons, placed, align_of_mod aligned, inductionHypothesis next, append,
        Array.toList_appendList, List.flatMap_cons, List.append_assoc]

end Layout

/-! ## Keys in the order in which they first come -/

namespace Shared

variable {α : Type} [BEq α] [Hashable α]

/-- The pieces of some keys laid out, and where each is. -/
def laidOut (unit : Nat) (piece : α → List UInt8) (start : Layout) (keys : List α) : Shared α :=
  let placed := start.place unit (keys.map fun key => some (piece key))
  { layout := placed.1, offsets := offsetTable keys placed.2 }

variable {unit : Nat} {piece : α → List UInt8} {start : Layout}

/-- One more key is put behind the others. -/
theorem laidOut_concat (keys : List α) (key : α) :
    laidOut unit piece start (keys ++ [key]) =
      { layout := ((laidOut unit piece start keys).layout.align unit).append (piece key)
        offsets :=
          (laidOut unit piece start keys).offsets.insert key
            ((laidOut unit piece start keys).layout.align unit).position } := by
  simp only [laidOut, List.map_append, List.map_cons, List.map_nil, Layout.place_append,
    Layout.place_cons, Layout.place_nil, Layout.placed, offsetTable]
  rw [List.zip_append (by simp), List.foldl_append]
  rfl

variable [LawfulBEq α]

/-- The table has an offset for each key, and for no other. -/
theorem mem_laidOut {keys : List α} {key : α} :
    key ∈ (laidOut unit piece start keys).offsets ↔ key ∈ keys := by
  induction keys using List.reverseRecOn with
  | nil =>
      simp [laidOut, offsetTable]
  | append_singleton keys last inductionHypothesis =>
      rw [laidOut_concat, Std.HashMap.mem_insert, inductionHypothesis, List.mem_append,
        List.mem_singleton, beq_iff_eq, or_comm, eq_comm]

/-- A pass over keys behind those that were seen lays out what is different. -/
theorem foldl_put
    (keys : List α)
    (seen : Std.HashSet α)
    (kept : Array α)
    (same : ∀ key, key ∈ seen ↔ key ∈ kept) :
    keys.foldl (put unit piece) (laidOut unit piece start kept.toList) =
      laidOut unit piece start (keys.foldl distinctStep (seen, kept)).2.toList := by
  -- The keys that have a place are those that were seen, all along.
  induction keys generalizing seen kept with
  | nil =>
      rfl
  | cons key rest inductionHypothesis =>
      have sameKeys :
          (laidOut unit piece start kept.toList).offsets.contains key = seen.contains key := by
        rw [Bool.eq_iff_iff, ← Std.HashMap.mem_iff_contains, ← Std.HashSet.mem_iff_contains,
          mem_laidOut, same, Array.mem_toList_iff]
      rw [List.foldl_cons, List.foldl_cons, put, distinctStep, sameKeys]
      split
      · exact inductionHypothesis seen kept same
      · have sameThen (other : α) : other ∈ seen.insert key ↔ other ∈ kept.push key := by
          rw [Std.HashSet.mem_insert, Array.mem_push, same, beq_iff_eq, or_comm, eq_comm]
        rw [← inductionHypothesis (seen.insert key) (kept.push key) sameThen, Array.toList_push,
          laidOut_concat]

/-- A pass over keys lays out the different ones among them. -/
theorem foldl_put_empty (keys : List α) :
    keys.foldl (put unit piece) { layout := start, offsets := ∅ } =
      laidOut unit piece start (distinct keys) :=
  foldl_put keys ∅ #[] (by simp)

/-- Whoever asks for one of the keys whose different ones were laid out finds an offset. -/
theorem getElem?_laidOut
    {asked : List α}
    {key : α}
    (member : key ∈ asked) :
    ∃ offset, (laidOut unit piece start (distinct asked)).offsets[key]? = some offset := by
  have inTable : key ∈ (laidOut unit piece start (distinct asked)).offsets :=
    mem_laidOut.mpr (mem_distinct member)
  exact ⟨_, Std.HashMap.getElem?_eq_some_getElem inTable⟩

omit [LawfulBEq α] in
theorem extends_laidOut (keys : List α) :
    start.Extends (laidOut unit piece start keys).layout :=
  (start.place_spec unit _).1

/-- The piece of each key that is asked for is where the table says. -/
theorem placed_laidOut
    {asked : List α}
    {key : α}
    (member : key ∈ asked) :
    (laidOut unit piece start (distinct asked)).layout.Placed (some (piece key))
      (offsetIn (laidOut unit piece start (distinct asked)).offsets key) :=
  (start.place_spec unit _).2.placed_offsetIn (mem_distinct member)

/-- Pieces are written behind what is there for all keys that are asked for, for each key once, and
the piece of each is found where the table says. -/
structure WritesOnce (piece : α → List UInt8) (start : Layout) (asked : List α)
    (shared : Shared α) : Prop where
  once :
    ∃ keys : List α,
      keys.Nodup ∧
        (∀ key, key ∈ keys ↔ key ∈ asked) ∧
          shared.layout.bytes.toList = start.bytes.toList ++ keys.flatMap piece
  found :
    ∀ key ∈ asked,
      ∃ offset, shared.offsets[key]? = some offset ∧ shared.layout.Placed (some (piece key)) offset

/-- Laying out the different ones of some keys writes the piece of each once. -/
theorem writesOnce
    (multiple : ∀ key, (piece key).length % unit = 0)
    (aligned : start.position % unit = 0)
    (asked : List α) :
    WritesOnce piece start asked (laidOut unit piece start (distinct asked)) where
  once :=
    ⟨distinct asked, nodup_distinct asked, fun _ => mem_distinct_iff,
      Layout.toList_place multiple aligned (distinct asked)⟩
  found key member := by
    have placed :
        (laidOut unit piece start (distinct asked)).layout.Placed (some (piece key))
          (offsetIn (laidOut unit piece start (distinct asked)).offsets key) :=
      placed_laidOut member
    obtain ⟨offset, isOffset⟩ := getElem?_laidOut member
    rw [offsetIn, isOffset] at placed
    exact ⟨offset, isOffset, placed⟩

end Shared

end DexPatch
