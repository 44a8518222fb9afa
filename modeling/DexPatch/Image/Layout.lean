import Std.Data.HashMap
import Std.Data.HashSet
import DexPatch.Bytes

namespace DexPatch

/-!
# Laying pieces out

A layout is the data that an image has from some offset on.  Pieces are put
behind what is there, each at a multiple of a unit, and the offset of each is
remembered.  Equal pieces can share one place.
-/

/-- The data of an image from an offset on. -/
structure Layout where
  base : Nat
  bytes : Bytes
deriving Repr

namespace Layout

/-- The offset at which the data ends. -/
def position (layout : Layout) : Nat := layout.base + layout.bytes.size

/-- The layout with zeros up to a multiple of a unit. -/
def align (layout : Layout) (unit : Nat) : Layout :=
  { layout with
    bytes := layout.bytes ++ List.replicate (padding unit layout.position) (0 : UInt8) }

/-- The layout with a piece behind it. -/
def append (layout : Layout) (piece : List UInt8) : Layout :=
  { layout with bytes := layout.bytes ++ piece }

/-- The layout with one more piece at a multiple of a unit, and the offsets with the piece's; an
absent piece has offset zero and takes no space. -/
def placeOne (unit : Nat) (state : Layout × Array Nat) (piece : Option (List UInt8)) :
    Layout × Array Nat :=
  match state, piece with
  | (layout, offsets), none => (layout, offsets.push 0)
  | (layout, offsets), some piece =>
    let aligned := layout.align unit
    let offset := aligned.position
    (aligned.append piece, offsets.push offset)

/-- The layout with pieces at multiples of a unit, and the offset of each. -/
def place (layout : Layout) (unit : Nat) (pieces : List (Option (List UInt8))) :
    Layout × List Nat :=
  let (layout, offsets) := pieces.foldl (placeOne unit) (layout, #[])
  (layout, offsets.toList)

end Layout

/-- The elements seen so far, and the different ones among them in order, after one more. -/
def distinctStep {α : Type} [BEq α] [Hashable α] (state : Std.HashSet α × Array α) (x : α) :
    Std.HashSet α × Array α :=
  if state.1.contains x then state else (state.1.insert x, state.2.push x)

/-- The elements of a list without those that equal an earlier one. -/
def distinct {α : Type} [BEq α] [Hashable α] (list : List α) : List α :=
  (list.foldl distinctStep (∅, #[])).2.toList

/-- The offsets of keys that are all different. -/
def offsetTable {α : Type} [BEq α] [Hashable α] (keys : List α) (offsets : List Nat) :
    Std.HashMap α Nat :=
  (List.zip keys offsets).foldl (fun table (key, offset) => table.insert key offset) ∅

/-- The offset of a key. -/
def offsetIn {α : Type} [BEq α] [Hashable α] (table : Std.HashMap α Nat) (key : α) : Nat :=
  table[key]?.getD 0

/-- The pieces of all elements one behind the other. -/
def concatBytes {α : Type} (list : List α) (piece : α → List UInt8) : Bytes :=
  list.foldl (fun bytes x => bytes ++ piece x) #[]

end DexPatch
