import DexPatch.Chain
import DexPatch.Instruction.Listing
import DexPatch.Instruction.Operands

namespace DexPatch

/-!
# Code changed in place

Two changes of code go step by step.  The operands of code are renumbered
while it is walked from one instruction to the next, so that the widths are
told by code that is changed already.  A listing is assembled into a body that
others hold, which is told apart from the body before only by what has been
stored in it.
-/

/-! ## Operands -/

/-- The new number of each entry of each pool, and none where a pool has no such entry. -/
abbrev NewNumbers := Pool → UInt32 → Option UInt32

/-- Why operands cannot be renumbered. -/
inductive RewriteError where
  | refused (reason : EncodeError)
  /-- A unit is asked for that the code does not have. -/
  | outOfBounds (unit : Nat)
deriving DecidableEq, Repr

/-- The unit at a position of the code. -/
def unitAt (code : List UInt16) (unit : Nat) : Except RewriteError UInt16 :=
  match code[unit]? with
  | some value => .ok value
  | none => .error (.outOfBounds unit)

/-- The code with another unit at a position. -/
def putUnit (code : List UInt16) (unit : Nat) (value : UInt16) :
    Except RewriteError (List UInt16) :=
  if unit < code.length then .ok (code.set unit value) else .error (.outOfBounds unit)

namespace NewNumbers

/-- The new number of an entry that is referred to. -/
def number (numbers : NewNumbers) (pool : Pool) (index : UInt32) : Except RewriteError UInt32 :=
  match numbers pool index with
  | some number => .ok number
  | none => .error (.refused (.danglingIndex pool index))

/-- The new number of an entry, for an operand of one unit. -/
def shortNumber (numbers : NewNumbers) (pool : Pool) (index : UInt32) :
    Except RewriteError UInt16 := do
  let number ← numbers.number pool index
  if number.toNat < 65536 then
    return number.toUInt16
  else
    throw (.refused (.indexOverflow pool number))

/-- The code with the operands of the instruction at a position renumbered. -/
def rewriteAt (numbers : NewNumbers) (code : List UInt16) (unit : Nat) :
    Except RewriteError (List UInt16) := do
  let first ← unitAt code unit
  match (operandKind first).pool? with
  | none => return code
  | some pool =>
    if opcodeOf first = Opcode.constStringJumbo then
      let number ← numbers.number pool
        (wideIndex (← unitAt code (unit + 1)) (← unitAt code (unit + 2)))
      let code ← putUnit code (unit + 1) (UInt16.ofNat number.toNat)
      putUnit code (unit + 2) (UInt16.ofNat (number.toNat / 65536))
    else
      let operand := (code[unit + 1]?.getD 0).toUInt32
      let code ← putUnit code (unit + 1) (← numbers.shortNumber pool operand)
      if operandKind first = .methodAndProto then
        let proto := (← unitAt code (unit + 3)).toUInt32
        putUnit code (unit + 3) (← numbers.shortNumber .proto proto)
      else
        return code

/-! Renumbering changes units and never their number, so the walk comes to an end. -/

theorem length_putUnit
    {code changed : List UInt16}
    {unit : Nat}
    {value : UInt16}
    (put : putUnit code unit value = .ok changed) :
    changed.length = code.length := by
  rw [putUnit] at put
  split at put
  · cases put
    exact List.length_set
  · cases put

theorem length_rewriteAt
    {numbers : NewNumbers}
    {code changed : List UInt16}
    {unit : Nat}
    (rewritten : numbers.rewriteAt code unit = .ok changed) :
    changed.length = code.length := by
  rw [rewriteAt] at rewritten
  obtain ⟨first, -, rewritten⟩ := bind_eq_ok_iff.mp rewritten
  split at rewritten
  · cases rewritten
    rfl
  · split at rewritten
    · obtain ⟨low, -, rewritten⟩ := bind_eq_ok_iff.mp rewritten
      obtain ⟨high, -, rewritten⟩ := bind_eq_ok_iff.mp rewritten
      obtain ⟨number, -, rewritten⟩ := bind_eq_ok_iff.mp rewritten
      obtain ⟨between, put, rewritten⟩ := bind_eq_ok_iff.mp rewritten
      exact (length_putUnit rewritten).trans (length_putUnit put)
    · obtain ⟨number, -, rewritten⟩ := bind_eq_ok_iff.mp rewritten
      obtain ⟨between, put, rewritten⟩ := bind_eq_ok_iff.mp rewritten
      split at rewritten
      · obtain ⟨second, -, rewritten⟩ := bind_eq_ok_iff.mp rewritten
        obtain ⟨proto, -, rewritten⟩ := bind_eq_ok_iff.mp rewritten
        exact (length_putUnit rewritten).trans (length_putUnit put)
      · cases rewritten
        exact length_putUnit put

/-- The code with the operands of all instructions from a position on renumbered. -/
def rewriteFrom (numbers : NewNumbers) (code : List UInt16) (unit : Nat) :
    Except RewriteError (List UInt16) :=
  if unit < code.length then
    match _ : widthAt code unit with
    | .error reason => .error (.refused reason)
    | .ok width =>
      match _ : numbers.rewriteAt code unit with
      | .error reason => .error reason
      | .ok changed => numbers.rewriteFrom changed (unit + width)
  else
    .ok code
termination_by code.length - unit
decreasing_by
  have sameLength := length_rewriteAt ‹numbers.rewriteAt code unit = .ok changed›
  have isWidth := width?_of_widthAt ‹widthAt code unit = .ok width›
  have positive := declaredWidth?_pos (width?_eq_some_iff.mp isWidth).1
  omega

/-- The walk ends behind the last unit. -/
theorem rewriteFrom_of_end
    {numbers : NewNumbers}
    {code : List UInt16}
    {unit : Nat}
    (atEnd : code.length ≤ unit) :
    numbers.rewriteFrom code unit = .ok code := by
  rw [rewriteFrom, if_neg (Nat.not_lt.mpr atEnd)]

/-- The walk ends where no complete instruction starts. -/
theorem rewriteFrom_of_incomplete
    {numbers : NewNumbers}
    {code : List UInt16}
    {unit : Nat}
    {reason : EncodeError}
    (inside : unit < code.length)
    (incomplete : widthAt code unit = .error reason) :
    numbers.rewriteFrom code unit = .error (.refused reason) := by
  rw [rewriteFrom, if_pos inside]
  split
  · next isWidth =>
      cases incomplete.symm.trans isWidth
      rfl
  · next isWidth =>
      cases incomplete.symm.trans isWidth

/-- The walk goes on behind a complete instruction, in the code that it has changed. -/
theorem rewriteFrom_of_complete
    {numbers : NewNumbers}
    {code : List UInt16}
    {unit width : Nat}
    (inside : unit < code.length)
    (complete : widthAt code unit = .ok width) :
    numbers.rewriteFrom code unit =
      numbers.rewriteAt code unit >>= fun changed =>
        numbers.rewriteFrom changed (unit + width) := by
  rw [rewriteFrom, if_pos inside]
  split
  · next isWidth =>
      cases complete.symm.trans isWidth
  · next isWidth =>
      cases complete.symm.trans isWidth
      split
      · next rewritten =>
          rw [rewritten]
          rfl
      · next rewritten =>
          rw [bind_of_ok rewritten]

/-- The code with the operands of all its instructions renumbered. -/
def rewrite (numbers : NewNumbers) (code : List UInt16) : Except RewriteError (List UInt16) :=
  numbers.rewriteFrom code 0

end NewNumbers

/-! ## Listings -/

namespace Listing

/-- Does control end with the listing? -/
def checkEnd (listing : Listing) : Except AssemblyError Unit :=
  match listing.getLast? with
  | none => .error .empty
  | some last => if last.isTerminal then .ok () else .error .fallsOffEnd

/-- Do all try ranges of a body end within so many units? -/
def checkTries (body : Body) (size : Nat) : Except AssemblyError Unit :=
  match overrunningTry? body size with
  | none => .ok ()
  | some range => .error (.malformedBody range.start.toNat)

/-- Stores a listing as the code of the body that is held.  The frame and the try ranges stay, and
must fit. -/
def store (listing : Listing) : ExceptT AssemblyError (StateM Body) Unit := do
  MonadExcept.ofExcept listing.checkEnd
  let code ← MonadExcept.ofExcept (listing.codeFrom (← get).registers 0)
  MonadExcept.ofExcept (checkTries (← get) code.length)
  modify fun body => { body with outs := listing.outs }
  modify fun body => { body with code }

/-- What storing a listing into a body ends with, and the body that is held then. -/
def storeInto (listing : Listing) (body : Body) : Except AssemblyError Unit × Body :=
  listing.store.run.run body

end Listing

end DexPatch
