import DexPatch.Proofs.Assembling

namespace DexPatch

/-!
# Bodies read and assembled again

A body that is read and assembled again keeps its code unit for unit.  Only
the registers that an invocation has room for and does not count are gone, for
its structure has no place for them; so a second time changes nothing.
-/

/-- The register of an invocation at a position: four are in the third unit, the fifth in the
first. -/
def argumentNibble (first third : UInt16) : (position : Nat) → Nat
  | 0 => third.toNat % 16
  | 1 => third.toNat / 16 % 16
  | 2 => third.toNat / 256 % 16
  | 3 => third.toNat / 4096
  | _ => first.toNat / 256 % 16

/-- The second units are the first, but for the registers that an invocation has and does not count:
these are zero. -/
inductive Trimmed : List UInt16 → List UInt16 → Prop
  | invocation {first third trimmedFirst trimmedThird : UInt16} (method : UInt16)
      (opcode : opcodeOf first = Opcode.invokeStatic)
      (few : first.toNat / 4096 ≤ 5)
      (sameOpcode : opcodeOf trimmedFirst = Opcode.invokeStatic)
      (sameCount : trimmedFirst.toNat / 4096 = first.toNat / 4096)
      (counted :
        ∀ position < first.toNat / 4096,
          argumentNibble trimmedFirst trimmedThird position = argumentNibble first third position)
      (uncounted :
        ∀ position < 5, first.toNat / 4096 ≤ position →
          argumentNibble trimmedFirst trimmedThird position = 0) :
      Trimmed [first, method, third] [trimmedFirst, method, trimmedThird]
  | other {units : List UInt16}
      (noInvocation :
        ∀ first ∈ units.head?,
          ¬ (opcodeOf first = Opcode.invokeStatic ∧ first.toNat / 4096 ≤ 5)) :
      Trimmed units units

theorem Trimmed.length_eq
    {old new : List UInt16}
    (trimmed : Trimmed old new) :
    new.length = old.length := by
  cases trimmed <;> rfl

namespace Instruction

/-! ## One instruction -/

/-- A first unit is its opcode and the byte beside it. -/
theorem firstUnit_of_opcode
    {first : UInt16}
    {op : UInt8}
    (opcode : opcodeOf first = op) :
    firstUnit (first.toNat / 256) op = first := by
  have bound := first.toNat_lt
  have low := toNat_opcodeOf first
  rw [opcode] at low
  apply UInt16.toNat_inj.mp
  rw [toNat_firstUnit (by omega), low]
  omega

theorem toNat_highByte (unit : UInt16) : (highByte unit).toNat = unit.toNat / 256 := by
  have := unit.toNat_lt
  rw [highByte, UInt8.toNat_ofNat']
  omega

/-- A literal that was read from a nibble is written as that nibble. -/
theorem nibble_literal4 :
    ∀ nibble < 16, ((literal4 nibble).toInt % 16).toNat = nibble := by
  decide

/-! ### Invocations -/

theorem argumentNibble_lt (first third : UInt16) (position : Nat) :
    argumentNibble first third position < 16 := by
  have bound := third.toNat_lt
  unfold argumentNibble
  split <;> omega

theorem packedArguments_eq (first third : UInt16) :
    packedArguments first third =
      (List.range 5).map fun position => UInt8.ofNat (argumentNibble first third position) := by
  rfl

/-- The arguments that are read are the registers that an invocation counts. -/
theorem argumentAt_packedArguments
    {first third : UInt16}
    {count position : Nat}
    (inside : position < 5) :
    argumentAt ((packedArguments first third).take count) position =
      if position < count then argumentNibble first third position else 0 := by
  have small := argumentNibble_lt first third position
  rw [argumentAt, packedArguments_eq, List.getElem?_take]
  split
  · rw [List.getElem?_map, List.getElem?_range inside, Option.map_some, Option.map_some,
      Option.getD_some, UInt8.toNat_ofNat']
    omega
  · rfl

theorem packedArguments_lt
    {first third : UInt16} :
    ∀ argument ∈ packedArguments first third, argument.toNat < 16 := by
  intro argument member
  rw [packedArguments_eq] at member
  obtain ⟨position, -, rfl⟩ := List.mem_map.mp member
  have small := argumentNibble_lt first third position
  rw [UInt8.toNat_ofNat']
  omega

/-- The registers that an invocation is written with are its arguments. -/
theorem argumentNibble_written
    {arguments : List UInt8}
    (few : arguments.length ≤ 5)
    (narrow : ∀ argument ∈ arguments, argument.toNat < 16)
    {position : Nat}
    (inside : position < 5) :
    argumentNibble (invocationUnit arguments) (packedUnit arguments) position =
      argumentAt arguments position := by
  have first := argumentNibble_lt (invocationUnit arguments) (packedUnit arguments) position
  have second := argumentAt_lt narrow position
  have same :
      (packedArguments (invocationUnit arguments) (packedUnit arguments))[position]? =
        some (UInt8.ofNat (argumentAt arguments position)) := by
    rw [packedArguments_written few narrow, List.getElem?_map, List.getElem?_range inside]
    rfl
  rw [packedArguments_eq, List.getElem?_map, List.getElem?_range inside, Option.map_some,
    Option.some.injEq, ← UInt8.toNat_inj, UInt8.toNat_ofNat', UInt8.toNat_ofNat'] at same
  omega

/-- The units of a complete instruction are written again as they were, but for registers that an
invocation does not count. -/
theorem trimmed_written
    {units : List UInt16}
    {instruction : Instruction}
    (stands : StandsFor units instruction) :
    Trimmed units instruction.written := by
  have noInvocation {first : UInt16} {rest : List UInt16} {op : UInt8}
      (opcode : opcodeOf first = op) (isOther : op ≠ Opcode.invokeStatic) :
      Trimmed (first :: rest) (first :: rest) := by
    refine .other ?_
    rintro _ ⟨⟩ ⟨isInvocation, -⟩
    exact isOther (opcode.symm.trans isInvocation)
  cases stands with
  | @const4 first opcode =>
      have bound := first.toNat_lt
      have same :
          firstUnit
              (((literal4 (first.toNat / 4096)).toInt % 16).toNat * 16 +
                (UInt8.ofNat ((highByte first).toNat % 16)).toNat) Opcode.const4 = first := by
        rw [nibble_literal4 _ (by omega), toNat_highByte, UInt8.toNat_ofNat']
        have high : first.toNat / 4096 * 16 + first.toNat / 256 % 16 % 2 ^ 8 =
            first.toNat / 256 := by
          omega
        rw [high, firstUnit_of_opcode opcode]
      rw [written, same]
      exact noInvocation opcode (by decide)
  | moveResultObject opcode | returnValue opcode | returnObject opcode =>
      rw [written, toNat_highByte, firstUnit_of_opcode opcode]
      exact noInvocation opcode (by decide)
  | @invokeStatic first method third opcode few =>
      have isCount :
          ((packedArguments first third).take (first.toNat / 4096)).length =
            first.toNat / 4096 := by
        rw [List.length_take]
        exact Nat.min_eq_left few
      have room : ((packedArguments first third).take (first.toNat / 4096)).length ≤ 5 := by
        rwa [isCount]
      have narrow :
          ∀ argument ∈ (packedArguments first third).take (first.toNat / 4096),
            argument.toNat < 16 := fun argument member =>
        packedArguments_lt argument (List.mem_of_mem_take member)
      have nibble {position : Nat} (inside : position < 5) :=
        (argumentNibble_written room narrow inside).trans (argumentAt_packedArguments inside)
      -- At each position: what is counted has been read, and it is written as it was read.
      rw [written, UInt16.toUInt16_toUInt32]
      refine .invocation method opcode few (opcodeOf_invocationUnit room narrow) ?_ ?_ ?_
      · rw [count_invocationUnit room narrow, isCount]
      · intro position counted
        rw [nibble (Nat.lt_of_lt_of_le counted few), if_pos counted]
      · intro position inside uncounted
        rw [nibble inside, if_neg (Nat.not_lt.mpr uncounted)]
  | sgetObject opcode =>
      rw [written, toNat_highByte, firstUnit_of_opcode opcode, UInt16.toUInt16_toUInt32]
      exact noInvocation opcode (by decide)
  | other unstructured =>
      refine .other fun first isFirst isInvocation => ?_
      exact unstructured ⟨first, isFirst, .inr isInvocation⟩

/-- A complete instruction that has been read is whole. -/
theorem whole_ofUnits
    {units tail : List UInt16}
    (declared : declaredWidth? (units ++ tail) = some units.length) :
    (ofUnits units).Whole := by
  have stands := standsFor_ofUnits declared
  generalize ofUnits units = instruction at stands ⊢
  cases stands with
  | other unstructured =>
      refine ⟨width?_eq_some_iff.mpr ⟨?_, Nat.le_refl _⟩, unstructured⟩
      have alone := declaredWidth?_append declared []
      rwa [List.append_nil] at alone
  | _ => trivial

end Instruction

/-! ## All instructions of a body -/

/-- The second body is the first, but for registers that invocations of its code do not count. -/
structure Reassembled (body after : Body) : Prop where
  others : after = { body with outs := after.outs, code := after.code }
  length : after.code.length = body.code.length
  complete : (split body.code).rest = [] ∧ (split after.code).rest = []
  boundaries :
    (split after.code).instructions.map List.length =
      (split body.code).instructions.map List.length
  instructions :
    List.Forall₂ Trimmed (split body.code).instructions (split after.code).instructions

namespace Listing

/-- The instructions of a listing that has been read are whole. -/
theorem whole_of_ofBody
    {body : Body}
    {listing : Listing}
    (read : ofBody body = .ok listing) :
    ∀ instruction ∈ listing, instruction.Whole := by
  obtain ⟨-, rfl⟩ := ofBody_eq_ok_iff.mp read
  intro instruction member
  obtain ⟨units, isUnits, rfl⟩ := List.mem_map.mp member
  obtain ⟨tail, declared⟩ := (Cut.of_split body.code).exists_tail isUnits
  exact Instruction.whole_ofUnits declared

/-- The instructions of a body that is read are written again as they were, but for registers that
invocations do not count. -/
theorem trimmed_of_ofBody
    {body : Body}
    {listing : Listing}
    (read : ofBody body = .ok listing) :
    List.Forall₂ Trimmed (split body.code).instructions (listing.map Instruction.written) := by
  obtain ⟨-, rfl⟩ := ofBody_eq_ok_iff.mp read
  rw [List.map_map]
  exact forall₂_split fun _ declared =>
    Instruction.trimmed_written (Instruction.standsFor_ofUnits declared)

/-- Reading a body and assembling what was read drops registers that invocations do not count and
changes nothing else.  The body then reads as before, and is assembled as it is. -/
theorem assemble_ofBody
    {body after : Body}
    {listing : Listing}
    (read : ofBody body = .ok listing)
    (assembled : listing.assemble body = .ok after) :
    Reassembled body after ∧ ofBody after = .ok listing ∧ listing.assemble after = .ok after := by
  have whole := whole_of_ofBody read
  have trimmed := trimmed_of_ofBody read
  obtain ⟨complete, -⟩ := ofBody_eq_ok_iff.mp read
  obtain ⟨assembles, rfl⟩ := assemble_eq_ok_iff.mp assembled
  have boundaries :
      (listing.map Instruction.written).map List.length =
        (split body.code).instructions.map List.length := by
    have same := trimmed.imp fun _ _ each => each.length_eq
    rw [← List.forall₂_eq_eq_eq, List.forall₂_map_left_iff, List.forall₂_map_right_iff]
    exact same.flip
  have isSplit := (cut_written assembles.fits whole).split_eq
  refine ⟨⟨rfl, ?_, ⟨complete, by rw [isSplit]⟩, by rw [isSplit]; exact boundaries,
    by rwa [isSplit]⟩, ofBody_of_written assembles.fits whole rfl, ?_⟩
  · exact (length_flatten_eq boundaries).trans
      (congrArg List.length (flatten_of_complete complete))
  · exact assemble_eq_ok_iff.mpr ⟨⟨assembles.ends, assembles.fits, assembles.covered⟩, rfl⟩

/-- A body whose invocation counts one register and holds five. -/
def overfull : Body :=
  { registers := 1, ins := 0, outs := 5, debug := none, code := [0x1371, 7, 0x4320, 0x000e]
    tries := [], handlers := [] }

/-- Of the five registers one stays. -/
theorem assemble_ofBody_overfull :
    Reassembled overfull { overfull with outs := 1, code := [0x1071, 7, 0x0000, 0x000e] } ∧
      ofBody { overfull with outs := 1, code := [0x1071, 7, 0x0000, 0x000e] } =
          .ok [.invokeStatic 7 [0], .other [0x000e]] ∧
        assemble [.invokeStatic 7 [0], .other [0x000e]]
            { overfull with outs := 1, code := [0x1071, 7, 0x0000, 0x000e] } =
          .ok { overfull with outs := 1, code := [0x1071, 7, 0x0000, 0x000e] } := by
  have read : ofBody overfull = .ok [.invokeStatic 7 [0], .other [0x000e]] := by
    rfl
  have assembled :
      assemble [.invokeStatic 7 [0], .other [0x000e]] overfull =
        .ok { overfull with outs := 1, code := [0x1071, 7, 0x0000, 0x000e] } := by
    rfl
  exact assemble_ofBody read assembled

end Listing

end DexPatch
