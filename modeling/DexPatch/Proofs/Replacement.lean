import DexPatch.Patch.Replacement
import DexPatch.Proofs.Finding

namespace DexPatch

/-!
# Canned bodies

A body is replaced by one of four short ones.  Its frame has one register more
than the arguments take, it guards nothing and tells nothing for debugging,
and what it refers to is the source of the empty list.
-/

namespace Container

/-- The code that returns what a behavior asks for; what it refers to is an entry of the
container. -/
def CannedCode (container : Container) (form : EmptyListForm) : Behavior → List UInt16 → Prop
  | .constantFalse, code => code = [0x0012, 0x000f]
  | .constantTrue, code => code = [0x1012, 0x000f]
  | .emptyList, code =>
      match form with
      | .invoke =>
          ∃ method : UInt16,
            container.MethodReads method.toUInt32 listSource "emptyList" Behavior.listType [] ∧
              code = [0x0071, method, 0x0000, 0x000c, 0x0011]
      | .field =>
          ∃ field : UInt16,
            container.FieldReads field.toUInt32 listSource "EMPTY_LIST" Behavior.listType ∧
              code = [0x0062, field, 0x0011]

/-- The body that returns what a behavior asks for, from a method whose arguments take so many
registers. -/
structure CannedBody
    (container : Container)
    (form : EmptyListForm)
    (behavior : Behavior)
    (ins : UInt16)
    (body : Body) :
    Prop where
  code : container.CannedCode form behavior body.code
  registers : body.registers.toNat = ins.toNat + 1
  ins : body.ins = ins
  outs : body.outs = 0
  debug : body.debug = none
  tries : body.tries = []
  handlers : body.handlers = []

variable {container : Container} {form : EmptyListForm} {behavior : Behavior}

/-- A body that is nothing but code is shaped. -/
theorem shaped_of_plain
    {body : Body}
    (debug : body.debug = none)
    (tries : body.tries = [])
    (handlers : body.handlers = []) :
    body.Shaped where
  steps := by simp [debug]
  fewTries := by simp [tries]
  handlers := by simp [handlers]
  unguarded := fun _ => handlers

theorem CannedBody.shaped
    {ins : UInt16}
    {body : Body}
    (canned : container.CannedBody form behavior ins body) :
    body.Shaped :=
  shaped_of_plain canned.debug canned.tries canned.handlers

/-- A canned body is one when pools have grown, too. -/
theorem Extends.cannedBody
    {before after : Container}
    (grown : before.Extends after)
    {ins : UInt16}
    {body : Body}
    (canned : before.CannedBody form behavior ins body) :
    after.CannedBody form behavior ins body := by
  refine { canned with code := ?_ }
  have code := canned.code
  cases behavior with
  | constantFalse =>
      exact code
  | constantTrue =>
      exact code
  | emptyList =>
      cases form with
      | invoke =>
          obtain ⟨method, reads, isCode⟩ := code
          exact ⟨method, grown.methodReads reads, isCode⟩
      | field =>
          obtain ⟨field, reads, isCode⟩ := code
          exact ⟨field, grown.fieldReads reads, isCode⟩

/-- A canned body is one when it is renumbered along with the container, too, if its operands get
their new numbers in full. -/
theorem CannedBody.renumbered
    {renumber : RefMap}
    {before after : Container}
    (follows : before.Follows renumber after)
    {ins : UInt16}
    {body : Body}
    (canned : before.CannedBody form behavior ins body)
    (inFull : body.OperandsFollow renumber) :
    after.CannedBody form behavior ins (body.mapRefs renumber) := by
  obtain ⟨code, registers, sameIns, outs, debug, tries, handlers⟩ := canned
  refine ⟨?_, registers, sameIns, outs, by simp [Body.mapRefs, debug], tries,
    by simp [Body.mapRefs, handlers]⟩
  obtain ⟨_, _, _, _, units, _, _⟩ := body
  cases behavior with
  | constantFalse =>
      obtain rfl : units = [0x0012, 0x000f] := code
      rfl
  | constantTrue =>
      obtain rfl : units = [0x1012, 0x000f] := code
      rfl
  | emptyList =>
      cases form with
      | invoke =>
          obtain ⟨method, reads, rfl⟩ :
              ∃ method : UInt16,
                before.MethodReads method.toUInt32 listSource "emptyList" Behavior.listType [] ∧
                  units = [0x0071, method, 0x0000, 0x000c, 0x0011] := code
          have operands :
              [[Reference.brief .method (renumber .method method.toUInt32).toUInt16.toUInt32],
                  [], []] =
                [[.brief .method (renumber .method method.toUInt32)], [], []] := inFull
          refine ⟨(renumber .method method.toUInt32).toUInt16, ?_, rfl⟩
          rw [show (renumber .method method.toUInt32).toUInt16.toUInt32 = _ by
            simpa [Reference.brief] using operands]
          exact follows.methodReads reads
      | field =>
          obtain ⟨field, reads, rfl⟩ :
              ∃ field : UInt16,
                before.FieldReads field.toUInt32 listSource "EMPTY_LIST" Behavior.listType ∧
                  units = [0x0062, field, 0x0011] := code
          have operands :
              [[Reference.brief .field (renumber .field field.toUInt32).toUInt16.toUInt32], []] =
                [[.brief .field (renumber .field field.toUInt32)], []] := inFull
          refine ⟨(renumber .field field.toUInt32).toUInt16, ?_, rfl⟩
          rw [show (renumber .field field.toUInt32).toUInt16.toUInt32 = _ by
            simpa [Reference.brief] using operands]
          exact follows.fieldReads reads

end Container

/-! ## Assembling -/

/-- The lowest register fits every frame that is not empty. -/
theorem checkedRegister_zero
    {registers : UInt16}
    (positive : 0 < registers.toNat)
    (bits : Nat) :
    Instruction.checkedRegister registers bits 0 = .ok 0 := by
  have room : ¬ 1 <<< bits ≤ 0 := by
    rw [Nat.one_shiftLeft, Nat.not_le]
    exact Nat.two_pow_pos bits
  exact (if_neg room).trans (if_neg (Nat.not_le.mpr positive))

/-- The instructions that return the empty list from its source. -/
def Listing.ofSource (form : EmptyListForm) (source : UInt32) : Listing :=
  match form with
  | .invoke => [.invokeStatic source [], .moveResultObject 0, .returnObject 0]
  | .field => [.sgetObject 0 source, .returnObject 0]

/-- The code that returns the empty list from its source. -/
def Container.sourceCode (form : EmptyListForm) (source : UInt16) : List UInt16 :=
  match form with
  | .invoke => [0x0071, source, 0x0000, 0x000c, 0x0011]
  | .field => [0x0062, source, 0x0011]

namespace Listing

variable {registers : UInt16} (positive : 0 < registers.toNat)

include positive

theorem codeFrom_constant
    (value : Int8)
    (fits : ¬ (value.toInt < -8 ∨ 7 < value.toInt)) :
    codeFrom registers 0 [.const4 0 value, .returnValue 0] =
      .ok [Instruction.firstUnit ((value.toInt % 16).toNat * 16) Opcode.const4, 0x000f] := by
  simp only [codeFrom, Instruction.units, checkedRegister_zero positive, if_neg fits]
  rfl

theorem codeFrom_emptyList (form : EmptyListForm) (source : UInt32) :
    codeFrom registers 0 (ofSource form source) =
      (Instruction.checkedIndex source).map (Container.sourceCode form) := by
  cases form with
  | invoke =>
      simp only [ofSource, codeFrom, Instruction.units, checkedRegister_zero positive]
      cases Instruction.checkedIndex source <;> rfl
  | field =>
      simp only [ofSource, codeFrom, Instruction.units, checkedRegister_zero positive]
      cases Instruction.checkedIndex source <;> rfl

end Listing

/-! ## The source of the empty list -/

namespace Container

/-- The container with the method or the field that gives the empty list, and its number. -/
def internSource (container : Container) : EmptyListForm → UInt32 × Container
  | .invoke => container.internMethod listSource "emptyList" Behavior.listType []
  | .field => container.internField listSource "EMPTY_LIST" Behavior.listType

/-- The number of the first method or field that gives the empty list. -/
def findSource? (container : Container) : EmptyListForm → Option UInt32
  | .invoke => container.findMethod? listSource "emptyList" Behavior.listType []
  | .field => container.findField? listSource "EMPTY_LIST" Behavior.listType

theorem interns_source (form : EmptyListForm) :
    Interns (·.findSource? form) (·.internSource form) := by
  cases form with
  | invoke =>
      exact interns_method ..
  | field =>
      exact interns_field ..

/-- The container with the source of the empty list, if it is asked for. -/
def withSource (container : Container) (form : EmptyListForm) (asked : Bool) : Container :=
  if asked then (container.internSource form).2 else container

theorem interned_withSource (container : Container) (form : EmptyListForm) (asked : Bool) :
    container.Interned (container.withSource form asked) := by
  cases asked with
  | false =>
      exact .refl container
  | true =>
      exact (interns_source form).grown container

end Container

/-- Does the behavior ask for the source of the empty list? -/
def Behavior.asksSource : Behavior → Bool
  | .emptyList => true
  | .constantFalse => false
  | .constantTrue => false

namespace Container

/-- The code of a behavior. -/
def cannedCode (form : EmptyListForm) (source : UInt16) : Behavior → List UInt16
  | .constantFalse => [0x0012, 0x000f]
  | .constantTrue => [0x1012, 0x000f]
  | .emptyList => sourceCode form source

/-- The body of a behavior, for a method whose arguments take so many registers. -/
def cannedBody
    (form : EmptyListForm)
    (source : UInt16)
    (behavior : Behavior)
    (ins : UInt16) :
    Body :=
  { registers := ins + 1, ins, outs := 0, code := cannedCode form source behavior
    tries := [], handlers := [], debug := none }

/-! ## Replacing a body -/

variable {container : Container} {form : EmptyListForm} {behavior : Behavior}

/-- A listing that control does not run out of makes a fresh body if its code can be made. -/
theorem freshBody_eq
    {ins : UInt16}
    {listing : Listing}
    {last : Instruction}
    (isLast : listing.getLast? = some last)
    (isTerminal : last.isTerminal = true) :
    freshBody ins listing =
      (listing.codeFrom (ins + 1) 0).map fun code =>
        { registers := ins + 1, ins, outs := listing.outs, code, tries := [], handlers := []
          debug := none } := by
  rw [freshBody, Listing.assemble, isLast]
  simp only [isTerminal]
  cases listing.codeFrom (ins + 1) 0 <;> rfl

/-- The instructions that return the empty list come with its source. -/
theorem canned_emptyList (container : Container) (form : EmptyListForm) :
    container.canned .emptyList form =
      (.ofSource form (container.internSource form).1, (container.internSource form).2) := by
  cases form <;> rfl

/-- The instructions of a behavior come with the source of the empty list if they ask for it. -/
theorem canned_snd (container : Container) (behavior : Behavior) (form : EmptyListForm) :
    (container.canned behavior form).2 = container.withSource form behavior.asksSource := by
  cases behavior <;> cases form <;> rfl

/-- Is the source of the empty list asked for, and its number too wide for an operand? -/
def SourceTooWide (container : Container) (form : EmptyListForm) (behavior : Behavior) : Prop :=
  behavior.asksSource = true ∧ 65536 ≤ (container.internSource form).1.toNat

instance : Decidable (container.SourceTooWide form behavior) :=
  inferInstanceAs (Decidable (_ ∧ _))

/-- The instructions of a behavior make its body if the number of the source is not too wide. -/
theorem freshBody_canned
    (container : Container)
    (behavior : Behavior)
    (form : EmptyListForm)
    {ins : UInt16}
    (room : ins.toNat < 65535) :
    freshBody ins (container.canned behavior form).1 =
      if container.SourceTooWide form behavior then
        .error (.indexTooWide (container.internSource form).1)
      else
        .ok (cannedBody form (container.internSource form).1.toUInt16 behavior ins) := by
  have positive : 0 < (ins + 1).toNat := by
    rw [UInt16.toNat_add, UInt16.toNat_one]
    omega
  cases behavior with
  | constantFalse =>
      have ends : [Instruction.const4 0 0, .returnValue 0].getLast? = some (.returnValue 0) := rfl
      rw [canned, freshBody_eq ends rfl,
        Listing.codeFrom_constant positive 0 (by decide),
        if_neg (by simp [SourceTooWide, Behavior.asksSource])]
      rfl
  | constantTrue =>
      have ends : [Instruction.const4 0 1, .returnValue 0].getLast? = some (.returnValue 0) := rfl
      rw [canned, freshBody_eq ends rfl,
        Listing.codeFrom_constant positive 1 (by decide),
        if_neg (by simp [SourceTooWide, Behavior.asksSource])]
      rfl
  | emptyList =>
      have ends : (Listing.ofSource form (container.internSource form).1).getLast? =
          some (.returnObject 0) := by
        cases form <;> rfl
      have passesNone : (Listing.ofSource form (container.internSource form).1).outs = 0 := by
        cases form <;> rfl
      rw [canned_emptyList, freshBody_eq ends rfl, Listing.codeFrom_emptyList positive, passesNone,
        Instruction.checkedIndex]
      by_cases wide : 65536 ≤ (container.internSource form).1.toNat
      · rw [if_neg (Nat.not_lt.mpr wide), if_pos ⟨rfl, wide⟩]
        rfl
      · rw [if_neg fun tooWide : container.SourceTooWide form .emptyList => wide tooWide.2,
          if_pos (Nat.not_le.mp wide)]
        rfl

/-- The body of a behavior is a canned one, if its operand was not too wide. -/
theorem cannedBody_spec
    {ins : UInt16}
    (room : ins.toNat < 65535)
    (fits : ¬ container.SourceTooWide form behavior)
    (numbered : (container.withSource form behavior.asksSource).Numbered) :
    (container.withSource form behavior.asksSource).CannedBody form behavior ins
      (cannedBody form (container.internSource form).1.toUInt16 behavior ins) := by
  have registers : (ins + 1).toNat = ins.toNat + 1 := by
    rw [UInt16.toNat_add, UInt16.toNat_one]
    omega
  refine
    { registers, ins := rfl, outs := rfl, debug := rfl, tries := rfl, handlers := rfl
      code := ?_ }
  cases behavior with
  | constantFalse =>
      rfl
  | constantTrue =>
      rfl
  | emptyList =>
      have narrow : (container.internSource form).1.toNat < 65536 :=
        Nat.lt_of_not_le fun wide => fits ⟨rfl, wide⟩
      have operand := toUInt32_toUInt16 narrow
      cases form with
      | invoke =>
          refine ⟨(container.internSource .invoke).1.toUInt16, ?_, rfl⟩
          rw [operand]
          exact methodReads_internMethod numbered
      | field =>
          refine ⟨(container.internSource .field).1.toUInt16, ?_, rfl⟩
          rw [operand]
          exact fieldReads_internField numbered

/-- A frame can grow if the body is there and takes few arguments. -/
theorem exists_of_growableIns
    {key : MethodKey}
    {ins : UInt16}
    (growable : container.growableIns key = .ok ins) :
    ∃ old, container.body? key = some old ∧ old.ins.toNat < 65535 ∧ old.ins = ins := by
  rw [growableIns] at growable
  split at growable
  · cases growable
  · next method isMethod =>
    split at growable
    · cases growable
    · next old isOld =>
      split at growable
      · next room =>
        exact ⟨old, by rw [body?, isMethod]; exact isOld, room, Except.ok.inj growable⟩
      · cases growable

/-- Where the frame can grow, the source is interned if it is asked for, and then the body is
replaced unless the number of the source is too wide. -/
theorem replaceBody_of_growable
    {key : MethodKey}
    {ins : UInt16}
    (growable : container.growableIns key = .ok ins)
    (behavior : Behavior)
    (form : EmptyListForm) :
    container.replaceBody key behavior form =
      if container.SourceTooWide form behavior then
        (.error (.indexTooWide (container.internSource form).1),
          container.withSource form behavior.asksSource)
      else
        (.ok (),
          (container.withSource form behavior.asksSource).setBody key
            (some (cannedBody form (container.internSource form).1.toUInt16 behavior ins))) := by
  obtain ⟨old, -, room, rfl⟩ := exists_of_growableIns growable
  rw [replaceBody, growable]
  dsimp only
  rw [freshBody_canned container behavior form room, canned_snd]
  by_cases tooWide : container.SourceTooWide form behavior
  · rw [if_pos tooWide, if_pos tooWide]
  · rw [if_neg tooWide, if_neg tooWide]

/-- Replacing a body grows pools, and puts a canned body in the place of one whose arguments take
as many registers, or none if that fails. -/
theorem replaceBody_spec
    (container : Container)
    (key : MethodKey)
    (behavior : Behavior)
    (form : EmptyListForm) :
    ∃ grown, container.Interned grown ∧
      match container.replaceBody key behavior form with
      | (.error _, result) => result = grown
      | (.ok (), result) =>
          ∃ old body,
            container.body? key = some old ∧ body.ins = old.ins ∧
              result = grown.setBody key (some body) ∧
                (grown.Numbered → grown.CannedBody form behavior old.ins body) := by
  cases growable : container.growableIns key with
  | error reason =>
      refine ⟨container, .refl container, ?_⟩
      rw [replaceBody, growable]
  | ok ins =>
      refine ⟨container.withSource form behavior.asksSource,
        container.interned_withSource form behavior.asksSource, ?_⟩
      obtain ⟨old, isOld, room, rfl⟩ := exists_of_growableIns growable
      rw [replaceBody_of_growable growable]
      by_cases tooWide : container.SourceTooWide form behavior
      · rw [if_pos tooWide]
      · rw [if_neg tooWide]
        exact ⟨old, cannedBody form (container.internSource form).1.toUInt16 behavior old.ins,
          isOld, rfl, rfl, cannedBody_spec room tooWide⟩

end Container

end DexPatch
