import DexPatch.Error
import DexPatch.Instruction.Opcode

namespace DexPatch

/-!
# Instruction boundaries

A body's code is a list of units.  An instruction is as wide as its format
tells, and a data payload as its own header tells.  `split` cuts code at the
boundaries, as far as complete instructions go; `Split.code` says that nothing
is lost.
-/

/-- Are there at least so many elements? -/
def hasLength {α : Type} : Nat → List α → Bool
  | 0, _ => true
  | _ + 1, [] => false
  | n + 1, _ :: rest => hasLength n rest

@[simp] theorem hasLength_eq {α : Type} (n : Nat) (list : List α) :
    hasLength n list = decide (n ≤ list.length) := by
  induction n generalizing list with
  | zero => simp [hasLength]
  | succ n ih => cases list <;> simp [hasLength, ih]

/-- The units that the instruction or payload at the head of the code asks for. -/
def declaredWidth? : List UInt16 → Option Nat
  | [] => none
  | first :: rest =>
    if first = 0x0100 then
      rest[0]?.map fun size => size.toNat * 2 + 4
    else if first = 0x0200 then
      rest[0]?.map fun size => size.toNat * 4 + 2
    else if first = 0x0300 then
      match rest with
      | elementWidth :: low :: high :: _ =>
        some (((low.toNat + high.toNat * 65536) * elementWidth.toNat + 1) / 2 + 4)
      | _ => none
    else
      some (Opcode.format (opcodeOf first)).width

/-- The width of the instruction or payload at the head of the code, if it is complete. -/
def width? (code : List UInt16) : Option Nat :=
  match declaredWidth? code with
  | none => none
  | some width => if hasLength width code then some width else none

theorem width_pos (format : Format) : 0 < format.width := by
  cases format <;> decide

/-- Every instruction or payload asks for a unit at least. -/
theorem declaredWidth?_pos
    {code : List UInt16}
    {width : Nat}
    (declared : declaredWidth? code = some width) :
    0 < width := by
  unfold declaredWidth? at declared
  split at declared
  · simp at declared
  · next first rest =>
      split at declared
      · obtain ⟨size, -, rfl⟩ := Option.map_eq_some_iff.mp declared
        omega
      · split at declared
        · obtain ⟨size, -, rfl⟩ := Option.map_eq_some_iff.mp declared
          omega
        · split at declared
          · split at declared
            · simp only [Option.some.injEq] at declared
              omega
            · simp at declared
          · simp only [Option.some.injEq] at declared
            subst declared
            exact width_pos _

/-- A complete instruction is as wide as it asks, and all its units are there. -/
theorem width?_eq_some_iff
    {code : List UInt16}
    {width : Nat} :
    width? code = some width ↔ declaredWidth? code = some width ∧ width ≤ code.length := by
  unfold width?
  split
  · simp [*]
  · next declared found =>
      simp only [hasLength_eq, decide_eq_true_eq, found, Option.some.injEq]
      split
      · next complete =>
          constructor
          · rintro ⟨⟩
            exact ⟨rfl, complete⟩
          · rintro ⟨rfl, -⟩
            rfl
      · next incomplete =>
          simp only [reduceCtorEq, false_iff]
          rintro ⟨rfl, complete⟩
          exact incomplete complete

/-- The width of the instruction or payload at a position of the code. -/
def widthAt (code : List UInt16) (unit : Nat) : Except EncodeError Nat :=
  match width? (code.drop unit) with
  | some width => .ok width
  | none => .error (.malformedCode unit)

theorem width?_of_widthAt
    {code : List UInt16}
    {unit width : Nat}
    (isWidth : widthAt code unit = .ok width) :
    width? (code.drop unit) = some width := by
  rw [widthAt] at isWidth
  split at isWidth
  · next found =>
      cases isWidth
      exact found
  · cases isWidth

/-- Code cut at instruction boundaries, with what follows the last complete instruction. -/
structure Split where
  instructions : List (List UInt16)
  rest : List UInt16
deriving DecidableEq, Repr

namespace Split

/-- The code that was cut. -/
def code (split : Split) : List UInt16 := split.instructions.flatten ++ split.rest

/-- The position at which no complete instruction starts, if there is one. -/
def fault? (split : Split) : Option Nat :=
  if split.rest.isEmpty then none else some split.instructions.flatten.length

end Split

/-- Cuts at most `budget` instructions off the code; those cut before come last first. -/
def splitFrom : (budget : Nat) → (cut : List (List UInt16)) → (code : List UInt16) → Split
  | 0, cut, code => { instructions := cut.reverse, rest := code }
  | budget + 1, cut, code =>
    match width? code with
    | none => { instructions := cut.reverse, rest := code }
    | some width => splitFrom budget (code.take width :: cut) (code.drop width)

/-- Cuts code at instruction boundaries.  Every instruction has a unit of its own, so there are
at most as many as units. -/
def split (code : List UInt16) : Split := splitFrom code.length [] code

theorem code_splitFrom (budget : Nat) (cut : List (List UInt16)) (code : List UInt16) :
    (splitFrom budget cut code).code = cut.reverse.flatten ++ code := by
  induction budget generalizing cut code with
  | zero => simp [splitFrom, Split.code]
  | succ budget ih =>
    rw [splitFrom]
    split
    · simp [Split.code]
    · rw [ih]; simp

/-- Cutting loses nothing. -/
@[simp] theorem code_split (code : List UInt16) : (split code).code = code := by
  simp [split, code_splitFrom]

end DexPatch
