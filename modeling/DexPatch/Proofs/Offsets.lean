import DexPatch.Image.Reader
import DexPatch.Proofs.Reading

namespace DexPatch

/-!
# Offsets that lead to something

An entry of a table names what it has elsewhere by an offset, and offset zero
says that it has nothing of the kind.
-/

/-- An offset that is zero leads to nothing. -/
theorem atOffset_eq_none_iff
    {α : Type}
    {offset : Nat}
    {reader : Nat → Except DecodeError α} :
    atOffset offset reader = .ok none ↔ offset = 0 := by
  unfold atOffset
  split
  · simp [*]
  · simp [map_eq_ok_iff, *]

/-- An offset that is not zero leads to what is read there. -/
theorem atOffset_eq_some_iff
    {α : Type}
    {offset : Nat}
    {reader : Nat → Except DecodeError α}
    {x : α} :
    atOffset offset reader = .ok (some x) ↔ offset ≠ 0 ∧ reader offset = .ok x := by
  unfold atOffset
  split
  · simp [*]
  · simp [map_eq_ok_iff, *]

end DexPatch
