import DexPatch.Proofs.Accretion

namespace DexPatch

/-!
# Interned entries read as was asked for

A number is read through the pools down to the strings.  What it reads as
stays when pools grow, and when entries get new numbers it is what their new
numbers read as.  The number that interning gives out is that of an entry which
reads as was asked for.
-/

namespace Container

variable {container : Container}

/-! ## What numbers read as -/

/-- The number is that of a string with the text. -/
def StringReads (container : Container) (index : UInt32) (text : String) : Prop :=
  ∃ string, container.strings[index.toNat]? = some string ∧ string.text = text

/-- The number is that of a type with the descriptor. -/
def TypeReads (container : Container) (index : UInt32) (descriptor : String) : Prop :=
  ∃ string, container.types[index.toNat]? = some string ∧ container.StringReads string descriptor

/-- The number is that of a prototype with the return type and the parameters. -/
def ProtoReads
    (container : Container)
    (index : UInt32)
    (returnType : String)
    (parameters : List String) :
    Prop :=
  ∃ proto,
    container.protos[index.toNat]? = some proto ∧
      container.TypeReads proto.returnType returnType ∧
        List.Forall₂ container.TypeReads proto.parameters parameters

/-- The number is that of a field with the class, the name and the type. -/
def FieldReads
    (container : Container)
    (index : UInt32)
    (declaringType name type : String) :
    Prop :=
  ∃ id,
    container.fields[index.toNat]? = some id ∧
      container.TypeReads id.declaringType declaringType ∧
        container.StringReads id.name name ∧ container.TypeReads id.type type

/-- The number is that of a method with the class, the name, the return type and the
parameters. -/
def MethodReads
    (container : Container)
    (index : UInt32)
    (declaringType name returnType : String)
    (parameters : List String) :
    Prop :=
  ∃ id,
    container.methods[index.toNat]? = some id ∧
      container.TypeReads id.declaringType declaringType ∧
        container.StringReads id.name name ∧
          container.ProtoReads id.proto returnType parameters

namespace Extends

variable {before after : Container} (grown : before.Extends after)

include grown

theorem stringReads
    {index : UInt32}
    {text : String}
    (reads : before.StringReads index text) :
    after.StringReads index text := by
  obtain ⟨string, found, isText⟩ := reads
  exact ⟨string, getElem?_of_grown grown.strings found, isText⟩

theorem typeReads
    {index : UInt32}
    {descriptor : String}
    (reads : before.TypeReads index descriptor) :
    after.TypeReads index descriptor := by
  obtain ⟨string, found, isDescriptor⟩ := reads
  exact ⟨string, getElem?_of_grown grown.types found, grown.stringReads isDescriptor⟩

theorem protoReads
    {index : UInt32}
    {returnType : String}
    {parameters : List String}
    (reads : before.ProtoReads index returnType parameters) :
    after.ProtoReads index returnType parameters := by
  obtain ⟨proto, found, isReturned, areParameters⟩ := reads
  exact ⟨proto, getElem?_of_grown grown.protos found, grown.typeReads isReturned,
    areParameters.imp fun _ _ => grown.typeReads⟩

theorem fieldReads
    {index : UInt32}
    {declaringType name type : String}
    (reads : before.FieldReads index declaringType name type) :
    after.FieldReads index declaringType name type := by
  obtain ⟨id, found, isDeclaring, isName, isType⟩ := reads
  exact ⟨id, getElem?_of_grown grown.fields found, grown.typeReads isDeclaring,
    grown.stringReads isName, grown.typeReads isType⟩

theorem methodReads
    {index : UInt32}
    {declaringType name returnType : String}
    {parameters : List String}
    (reads : before.MethodReads index declaringType name returnType parameters) :
    after.MethodReads index declaringType name returnType parameters := by
  obtain ⟨id, found, isDeclaring, isName, isProto⟩ := reads
  exact ⟨id, getElem?_of_grown grown.methods found, grown.typeReads isDeclaring,
    grown.stringReads isName, grown.protoReads isProto⟩

end Extends

namespace Follows

variable {renumber : RefMap} {before after : Container} (follows : before.Follows renumber after)

include follows

theorem stringReads
    {index : UInt32}
    {text : String}
    (reads : before.StringReads index text) :
    after.StringReads (renumber .string index) text := by
  obtain ⟨string, found, isText⟩ := reads
  exact ⟨string, follows.strings _ _ found, isText⟩

theorem typeReads
    {index : UInt32}
    {descriptor : String}
    (reads : before.TypeReads index descriptor) :
    after.TypeReads (renumber .type index) descriptor := by
  obtain ⟨string, found, isDescriptor⟩ := reads
  exact ⟨_, follows.types _ _ found, follows.stringReads isDescriptor⟩

theorem protoReads
    {index : UInt32}
    {returnType : String}
    {parameters : List String}
    (reads : before.ProtoReads index returnType parameters) :
    after.ProtoReads (renumber .proto index) returnType parameters := by
  obtain ⟨proto, found, isReturned, areParameters⟩ := reads
  exact ⟨_, follows.protos _ _ found, follows.typeReads isReturned,
    List.forall₂_map_left_iff.mpr (areParameters.imp fun _ _ => follows.typeReads)⟩

theorem fieldReads
    {index : UInt32}
    {declaringType name type : String}
    (reads : before.FieldReads index declaringType name type) :
    after.FieldReads (renumber .field index) declaringType name type := by
  obtain ⟨id, found, isDeclaring, isName, isType⟩ := reads
  exact ⟨_, follows.fields _ _ found, follows.typeReads isDeclaring, follows.stringReads isName,
    follows.typeReads isType⟩

theorem methodReads
    {index : UInt32}
    {declaringType name returnType : String}
    {parameters : List String}
    (reads : before.MethodReads index declaringType name returnType parameters) :
    after.MethodReads (renumber .method index) declaringType name returnType parameters := by
  obtain ⟨id, found, isDeclaring, isName, isProto⟩ := reads
  exact ⟨_, follows.methods _ _ found, follows.typeReads isDeclaring, follows.stringReads isName,
    follows.protoReads isProto⟩

end Follows

/-! ## Interned entries read as was asked for -/

/-- To intern a type that is there is to find it. -/
theorem internType_of_found
    {descriptor : String}
    {string : UInt32}
    {index : Nat}
    (isString : container.findString? descriptor = some string)
    (isType : container.types.findIdx? (· == string) = some index) :
    container.internType descriptor = (UInt32.ofNat index, container) := by
  rw [internType, internString, isString]
  dsimp only
  rw [isType]

/-- To intern a string that is not there is to add it. -/
theorem internString_of_new
    {text : String}
    (isNew : container.findString? text = none) :
    container.internString text =
      (UInt32.ofNat container.strings.size,
        { container with strings := container.strings.push (.ofText text) }) := by
  rw [internString, isNew]

/-- To intern a type whose descriptor is not there is to add both. -/
theorem internType_of_new
    {descriptor : String}
    (newString : container.findString? descriptor = none)
    (newType : container.types.findIdx? (· == UInt32.ofNat container.strings.size) = none) :
    container.internType descriptor =
      (UInt32.ofNat container.types.size,
        { container with
          strings := container.strings.push (.ofText descriptor)
          types := container.types.push (UInt32.ofNat container.strings.size) }) := by
  rw [internType, internString_of_new newString]
  dsimp only
  rw [newType]

/-- In a pool of few entries the number of an entry is that of its place. -/
theorem getElem?_ofNat
    {α : Type}
    {entries : Array α}
    (few : entries.size ≤ 4294967296)
    {i : Nat}
    {entry : α}
    (found : entries[i]? = some entry) :
    entries[(UInt32.ofNat i).toNat]? = some entry := by
  have inside := (Array.getElem?_eq_some_iff.mp found).1
  have fits : i < 4294967296 := by omega
  rwa [UInt32.toNat_ofNat_of_lt' fits]

/-- The entry at the first place where a condition holds fulfils it. -/
theorem getElem?_of_findIdx?
    {α : Type}
    {entries : Array α}
    {holds : α → Bool}
    {i : Nat}
    (found : entries.findIdx? holds = some i) :
    ∃ entry, entries[i]? = some entry ∧ holds entry = true := by
  obtain ⟨inside, here, -⟩ := Array.findIdx?_eq_some_iff_getElem.mp found
  exact ⟨entries[i], Array.getElem?_eq_getElem inside, here⟩

theorem stringReads_internString
    {text : String}
    (numbered : (container.internString text).2.Numbered) :
    (container.internString text).2.StringReads (container.internString text).1 text := by
  cases search : container.findString? text with
  | some index =>
      have result : container.internString text = (index, container) := by
        rw [internString, search]
      rw [result] at numbered ⊢
      obtain ⟨i, isFirst, rfl⟩ := Option.map_eq_some_iff.mp search
      obtain ⟨string, found, reads⟩ := getElem?_of_findIdx? isFirst
      exact ⟨string, getElem?_ofNat numbered.strings found, eq_of_beq reads⟩
  | none =>
      have result :
          container.internString text =
            (UInt32.ofNat container.strings.size,
              { container with strings := container.strings.push (.ofText text) }) := by
        rw [internString, search]
      rw [result] at numbered ⊢
      exact ⟨_, getElem?_ofNat numbered.strings Array.getElem?_push_size, PoolString.text_ofText text⟩

theorem typeReads_internType
    {descriptor : String}
    (numbered : (container.internType descriptor).2.Numbered) :
    (container.internType descriptor).2.TypeReads (container.internType descriptor).1
      descriptor := by
  have reads (few : (container.internString descriptor).2.Numbered) :=
    stringReads_internString few
  rw [internType] at numbered ⊢
  dsimp only at numbered ⊢
  split at numbered
  · next i isFirst =>
    obtain ⟨string, found, same⟩ := getElem?_of_findIdx? isFirst
    obtain rfl := eq_of_beq same
    exact ⟨_, getElem?_ofNat numbered.types found, reads numbered⟩
  · exact ⟨_, getElem?_ofNat numbered.types Array.getElem?_push_size,
      reads ((interned_push_type _).numbered numbered)⟩

theorem typeReads_internTypes
    {descriptors : List String}
    (numbered : (container.internTypes descriptors).2.Numbered) :
    List.Forall₂ (container.internTypes descriptors).2.TypeReads
      (container.internTypes descriptors).1 descriptors := by
  induction descriptors generalizing container with
  | nil =>
      exact .nil
  | cons descriptor rest inductionHypothesis =>
      have later := (container.internType descriptor).2.interned_internTypes rest
      refine .cons ?_ ?_
      · exact later.typeReads (typeReads_internType (later.numbered numbered))
      · exact inductionHypothesis numbered

theorem protoReads_internProto
    {returnType : String}
    {parameters : List String}
    (numbered : (container.internProto returnType parameters).2.Numbered) :
    (container.internProto returnType parameters).2.ProtoReads
      (container.internProto returnType parameters).1 returnType parameters := by
  have later := (container.internType returnType).2.interned_internTypes parameters
  have returned
      (few : ((container.internType returnType).2.internTypes parameters).2.Numbered) :=
    later.typeReads (typeReads_internType (later.numbered few))
  have types
      (few : ((container.internType returnType).2.internTypes parameters).2.Numbered) :=
    typeReads_internTypes few
  rw [internProto] at numbered ⊢
  dsimp only at numbered ⊢
  split at numbered
  · next i isFirst =>
    obtain ⟨proto, found, same⟩ := getElem?_of_findIdx? isFirst
    obtain ⟨sameReturned, sameTypes⟩ := Bool.and_eq_true_iff.mp same
    refine ⟨proto, getElem?_ofNat numbered.protos found, ?_, ?_⟩
    · rw [eq_of_beq sameReturned]
      exact returned numbered
    · rw [eq_of_beq sameTypes]
      exact types numbered
  · have string :=
      ((container.internType returnType).2.internTypes parameters).2.interned_internString
        (shorty returnType parameters)
    have few := string.numbered ((interned_push_proto _).numbered numbered)
    exact ⟨_, getElem?_ofNat numbered.protos Array.getElem?_push_size,
      (interned_push_proto _).typeReads (string.typeReads (returned few)),
      (types few).imp fun _ _ reads => (interned_push_proto _).typeReads (string.typeReads reads)⟩

theorem fieldReads_internField
    {declaringType name type : String}
    (numbered : (container.internField declaringType name type).2.Numbered) :
    (container.internField declaringType name type).2.FieldReads
      (container.internField declaringType name type).1 declaringType name type := by
  have third :=
    ((container.internType declaringType).2.internType type).2.interned_internString name
  have second := ((container.internType declaringType).2.interned_internType type).trans third
  have parts
      (few : (((container.internType declaringType).2.internType type).2.internString
        name).2.Numbered) :=
    And.intro (second.typeReads (typeReads_internType (second.numbered few)))
      (And.intro (stringReads_internString few)
        (third.typeReads (typeReads_internType (third.numbered few))))
  rw [internField] at numbered ⊢
  dsimp only at numbered ⊢
  split at numbered
  · next i isFirst =>
    obtain ⟨id, found, same⟩ := getElem?_of_findIdx? isFirst
    obtain rfl := eq_of_beq same
    exact ⟨_, getElem?_ofNat numbered.fields found, parts numbered⟩
  · obtain ⟨isDeclaring, isName, isType⟩ := parts ((interned_push_field _).numbered numbered)
    exact ⟨_, getElem?_ofNat numbered.fields Array.getElem?_push_size,
      (interned_push_field _).typeReads isDeclaring,
      (interned_push_field _).stringReads isName, (interned_push_field _).typeReads isType⟩

theorem methodReads_internMethod
    {declaringType name returnType : String}
    {parameters : List String}
    (numbered :
      (container.internMethod declaringType name returnType parameters).2.Numbered) :
    (container.internMethod declaringType name returnType parameters).2.MethodReads
      (container.internMethod declaringType name returnType parameters).1 declaringType name
      returnType parameters := by
  have third :=
    ((container.internType declaringType).2.internProto returnType
      parameters).2.interned_internString name
  have second :=
    ((container.internType declaringType).2.interned_internProto returnType parameters).trans third
  have parts
      (few : (((container.internType declaringType).2.internProto returnType
        parameters).2.internString name).2.Numbered) :=
    And.intro (second.typeReads (typeReads_internType (second.numbered few)))
      (And.intro (stringReads_internString few)
        (third.protoReads (protoReads_internProto (third.numbered few))))
  rw [internMethod] at numbered ⊢
  dsimp only at numbered ⊢
  split at numbered
  · next i isFirst =>
    obtain ⟨id, found, same⟩ := getElem?_of_findIdx? isFirst
    obtain rfl := eq_of_beq same
    exact ⟨_, getElem?_ofNat numbered.methods found, parts numbered⟩
  · obtain ⟨isDeclaring, isName, isProto⟩ := parts ((interned_push_method _).numbered numbered)
    exact ⟨_, getElem?_ofNat numbered.methods Array.getElem?_push_size,
      (interned_push_method _).typeReads isDeclaring,
      (interned_push_method _).stringReads isName, (interned_push_method _).protoReads isProto⟩

end Container

end DexPatch
