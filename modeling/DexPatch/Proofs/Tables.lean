import DexPatch.Proofs.Offsets
import DexPatch.Proofs.Members
import DexPatch.Proofs.Regions
import DexPatch.Proofs.Shapes

namespace DexPatch

/-!
# Tables read back

The header leads to each table, and each entry of a table is read from its own
place.  A string ends at its zero byte, and a list of types is found through
the table of offsets under which it was shared.
-/

/-- The bytes at an offset are those of a held piece and of what follows it. -/
theorem bytesAt_of_holds_front
    {data : Bytes}
    {offset : Nat}
    {piece : List UInt8}
    (held : Holds data offset piece)
    (length : Nat)
    (longer : piece.length ≤ length)
    (inside : offset + length ≤ data.size) :
    ∃ rest, bytesAt data offset length = .ok (piece ++ rest) := by
  obtain ⟨before, after, shape, rfl⟩ := Holds.iff_exists.mp held
  have size : data.size = data.toList.length := by simp
  rw [size, shape] at inside
  simp only [List.length_append] at inside
  have whole :
      Holds data before.length (piece ++ after.take (length - piece.length)) := by
    refine Holds.iff_exists.mpr ⟨before, after.drop (length - piece.length), ?_, rfl⟩
    rw [shape]
    simp
  have read := bytesAt_of_holds whole
  rw [List.length_append, List.length_take,
    show piece.length + min (length - piece.length) after.length = length by omega] at read
  exact ⟨_, read⟩

/-- The header gives the version if it is a supported one. -/
theorem readHeader_of_writtenIn
    {container : Container}
    {image : Bytes}
    (written : container.WrittenIn image)
    (supported : container.version.isSupported)
    (long : 112 ≤ image.size) :
    readHeader image = .ok container.version := by
  obtain ⟨rest, read⟩ :=
    bytesAt_of_holds_front written.start 112 (by simp [Header.magic, Version.bytes]) (by omega)
  have fields := written.fields
  simp only [Container.headerFields, Holds.append_iff, List.length_append, length_le32,
    and_assoc, Nat.reduceAdd] at fields
  obtain ⟨-, headerSize, endianTag, -⟩ := fields
  have readsTag := u32At_toNat_of_holds endianTag
  have readsSize := natAt_of_holds (by decide) headerSize
  rw [readHeader, Header.size, bind_of_ok read]
  simp only [Header.magic, Version.bytes, List.cons_append, List.nil_append]
  rw [if_neg (by simp), if_neg (by simp [supported]), bind_of_ok readsTag, if_neg (by simp),
    bind_of_ok readsSize]
  rfl

/-- The header tells of each of the first six tables its count and, unless it is empty, where it
starts. -/
theorem tableHeader_of_writtenIn
    {container : Container}
    {image : Bytes}
    (written : container.WrittenIn image)
    (i : Nat)
    {entry : Section}
    (found :
      ((Container.tableSections Header.size container.tables).take 6)[i]? = some entry) :
    Holds image (0x38 + i * 8)
      (le32 entry.count ++ le32 (if entry.count = 0 then 0 else entry.offset)) := by
  have fields := written.fields
  simp only [Container.headerFields, Holds.append_iff, List.length_append, length_le32,
    and_assoc, Nat.reduceAdd] at fields
  obtain ⟨-, -, -, -, -, -, tables, -⟩ := fields
  obtain ⟨inside, rfl⟩ := List.getElem?_eq_some_iff.mp found
  exact tables.flatMap_getElem_of_width 8 (fun _ _ => by simp) inside

/-- A table is read if each of its entries is. -/
theorem readTable_of_holds
    {α : Type}
    {data : Bytes}
    {position entrySize offset count : Nat}
    {entry : Nat → Except DecodeError α}
    {list : List α}
    (sameLength : list.length = count)
    (header : Holds data position (le32 count ++ le32 (if count = 0 then 0 else offset)))
    (few : count < 4294967296)
    (near : offset < 4294967296)
    (each :
      ∀ (i : Nat) (inside : i < list.length), entry (offset + i * entrySize) = .ok list[i]) :
    readTable data position entrySize entry = .ok list.toArray := by
  subst sameLength
  have readsCount := natAt_of_holds few header.left
  have second := header.right
  rw [length_le32] at second
  have readsOffset := natAt_of_holds (by split <;> omega) second
  have collected :
      collect list.length
          (fun i => entry ((if list.length = 0 then 0 else offset) + i * entrySize)) =
        .ok list := by
    refine collect_eq_ok_iff.mpr ⟨rfl, fun i inside => ?_⟩
    rw [if_neg (by omega)]
    exact each i inside
  rw [readTable, tableAt, bind_of_ok readsCount, bind_of_ok readsOffset]
  exact (bind_of_ok collected).trans rfl

/-! ## Strings -/

/-- The end of a string is its first zero byte. -/
theorem zeroWithin_of_holds
    {data : Bytes}
    {budget position : Nat}
    {bytes : List UInt8}
    (noZero : 0 ∉ bytes)
    (enough : bytes.length < budget)
    (held : Holds data position (bytes ++ [0])) :
    zeroWithin data budget position = some (position + bytes.length) := by
  induction bytes generalizing budget position with
  | nil =>
      obtain ⟨budget, rfl⟩ : ∃ less, budget = less + 1 := ⟨budget - 1, by simp at enough; omega⟩
      simp [zeroWithin, held.head]
  | cons byte rest inductionHypothesis =>
      obtain ⟨budget, rfl⟩ : ∃ less, budget = less + 1 := ⟨budget - 1, by simp at enough; omega⟩
      have nonzero : byte ≠ 0 := by
        rintro rfl
        exact noZero (by simp)
      have later :=
        inductionHypothesis (fun member => noZero (by simp [member]))
          (by simpa using enough) held.tail
      simp only [zeroWithin, held.head, nonzero, ↓reduceIte, later, List.length_cons,
        Option.some.injEq]
      omega

/-- A string is read where it is held, if it has no zero byte. -/
theorem stringAt_of_holds
    {data : Bytes}
    {offset : Nat}
    {string : PoolString}
    (noZero : 0 ∉ string.data)
    (held : Holds data offset string.bytes) :
    stringAt data offset = .ok string := by
  rw [PoolString.bytes, List.append_assoc] at held
  have readsLength := Leb128.readUnsigned_of_holds held.left
  have inside := held.right.le_size
  simp only [List.length_append, List.length_singleton] at inside
  have stop :
      zeroWithin data (data.size - (offset + (Leb128.unsigned string.utf16Length).length))
          (offset + (Leb128.unsigned string.utf16Length).length) =
        some (offset + (Leb128.unsigned string.utf16Length).length + string.data.length) :=
    zeroWithin_of_holds noZero (by omega) held.right
  rw [stringAt, bind_of_ok readsLength]
  simp only [stop, held.right.left.extract]
  rfl

/-! ## Lists of types -/

/-- A number below 65536 is the same in 16 bits and in 32. -/
theorem toUInt32_ofNat_toNat {index : UInt32} (brief : index.toNat < 65536) :
    (UInt16.ofNat index.toNat).toUInt32 = index := by
  rw [← UInt32.toNat_inj]
  simp
  omega

/-- A list of types is read where it is held. -/
theorem typeListAt_of_holds
    {data : Bytes}
    {size offset : Nat}
    {types : List UInt32}
    (fits : data.size < 4294967296)
    (inRange : ∀ type ∈ types, type.toNat < size ∧ type.toNat < 65536)
    (nonzero : offset ≠ 0)
    (held : Holds data offset (typeListBytes types)) :
    typeListAt data size offset = .ok types := by
  have inside := held.le_size
  have few := length_mul_le_length_flatMap (fun type : UInt32 => le16 type.toNat) types 2
    fun _ _ => by simp
  simp only [typeListBytes, List.length_append] at inside
  have entries := held.right
  rw [length_le32] at entries
  rw [typeListAt, if_neg nonzero]
  refine (bind_of_ok (natAt_of_holds (by omega) held.left)).trans ?_
  refine collect_eq_ok_iff.mpr ⟨rfl, fun i bound => ?_⟩
  obtain ⟨listed, brief⟩ := inRange _ (List.getElem_mem bound)
  have entry := entries.flatMap_getElem_of_width 2 (fun _ _ => by simp) bound
  rw [bind_of_ok (u16At_of_holds brief entry), toUInt32_ofNat_toNat brief, checked_of_lt listed]

/-- The data starts behind the header. -/
theorem Container.le_dataOffset (container : Container) : 112 ≤ container.dataOffset := by
  have := container.length_tableBytes
  omega

/-- A list of types that was laid out is read at the offset that its table has. -/
theorem typeListAt_typeListOffset
    {container : Container}
    {image : Bytes}
    {size : Nat}
    {types : List UInt32}
    (written : container.WrittenIn image)
    (fits : image.size < 4294967296)
    (inRange : ∀ type ∈ types, type.toNat < size ∧ type.toNat < 65536)
    (listed : types ≠ [] → types ∈ container.typeLists) :
    Container.typeListOffset container.data.typeTable types < 4294967296 ∧
      typeListAt image size (Container.typeListOffset container.data.typeTable types) =
        .ok types := by
  unfold Container.typeListOffset
  cases types with
  | nil =>
      exact ⟨by simp, rfl⟩
  | cons type rest =>
      obtain ⟨behind, holds⟩ :=
        container.laidOut.typeLists.placed_offsetIn (listed (by simp))
      have held := holds image written.data
      have base := container.laidOut.base
      have start := container.le_dataOffset
      have inside := held.le_size
      simp only [List.isEmpty_cons, Bool.false_eq_true, ↓reduceIte]
      refine ⟨?_, typeListAt_of_holds fits inRange ?_ held⟩
      · show offsetIn (offsetTable container.typeLists container.data.typeLists.offsets) _ < _
        omega
      · show offsetIn (offsetTable container.typeLists container.data.typeLists.offsets) _ ≠ _
        omega

/-- The parameters of prototypes and the interfaces of classes are laid out unless empty. -/
theorem Container.mem_typeLists
    {container : Container}
    {types : List UInt32}
    (used :
      (∃ proto ∈ container.protos, proto.parameters = types) ∨
        ∃ classDef ∈ container.classes, classDef.interfaces = types)
    (nonempty : types ≠ []) :
    types ∈ container.typeLists := by
  refine mem_distinct (List.mem_filter.mpr ⟨List.mem_append.mpr ?_, by simpa using nonempty⟩)
  rcases used with ⟨proto, member, rfl⟩ | ⟨classDef, member, rfl⟩
  · exact .inl (List.mem_map_of_mem (Array.mem_toList_iff.mpr member))
  · exact .inr (List.mem_map_of_mem member)

/-! ## Entries of the pools -/

/-- A prototype whose parts are in pools of some sizes, and its parameters in 16 bits. -/
@[mk_iff]
structure Proto.InRange (proto : Proto) (strings types : Nat) : Prop where
  shorty : proto.shorty.toNat < strings
  returnType : proto.returnType.toNat < types
  parameters : ∀ type ∈ proto.parameters, type.toNat < types ∧ type.toNat < 65536

instance (proto : Proto) (strings types : Nat) : Decidable (proto.InRange strings types) :=
  decidable_of_iff _ (Proto.inRange_iff proto strings types).symm

/-- A field whose parts are in pools of some sizes, and its types in 16 bits. -/
@[mk_iff]
structure FieldId.InRange (id : FieldId) (strings types : Nat) : Prop where
  declaringType : id.declaringType.toNat < types ∧ id.declaringType.toNat < 65536
  type : id.type.toNat < types ∧ id.type.toNat < 65536
  name : id.name.toNat < strings

instance (id : FieldId) (strings types : Nat) : Decidable (id.InRange strings types) :=
  decidable_of_iff _ (FieldId.inRange_iff id strings types).symm

/-- A method whose parts are in pools of some sizes, and its class and prototype in 16 bits. -/
@[mk_iff]
structure MethodId.InRange (id : MethodId) (strings types protos : Nat) : Prop where
  declaringType : id.declaringType.toNat < types ∧ id.declaringType.toNat < 65536
  proto : id.proto.toNat < protos ∧ id.proto.toNat < 65536
  name : id.name.toNat < strings

instance (id : MethodId) (strings types protos : Nat) : Decidable (id.InRange strings types protos) :=
  decidable_of_iff _ (MethodId.inRange_iff id strings types protos).symm

/-- A prototype is read where its entry is held. -/
theorem protoAt_of_holds
    {data : Bytes}
    {container : Container}
    {offset parameters : Nat}
    {proto : Proto}
    (inRange : proto.InRange container.strings.size container.types.size)
    (near : parameters < 4294967296)
    (list : typeListAt data container.types.size parameters = .ok proto.parameters)
    (held : Holds data offset (proto.entryBytes parameters)) :
    protoAt data container offset = .ok proto := by
  simp only [Proto.entryBytes, Holds.append_iff, List.length_append, length_le32, and_assoc,
    Nat.reduceAdd] at held
  obtain ⟨shorty, returnType, parameterList⟩ := held
  rw [protoAt, bind_of_ok (u32At_toNat_of_holds shorty), bind_of_ok (checked_of_lt inRange.shorty),
    bind_of_ok (u32At_toNat_of_holds returnType), bind_of_ok (checked_of_lt inRange.returnType),
    bind_of_ok (natAt_of_holds near parameterList), bind_of_ok list]
  rfl

/-- A field is read where its entry is held. -/
theorem fieldAt_of_holds
    {data : Bytes}
    {container : Container}
    {offset : Nat}
    {id : FieldId}
    (inRange : id.InRange container.strings.size container.types.size)
    (held : Holds data offset id.entryBytes) :
    fieldAt data container offset = .ok id := by
  simp only [FieldId.entryBytes, Holds.append_iff, List.length_append, length_le16, and_assoc,
    Nat.reduceAdd] at held
  obtain ⟨declaringType, type, name⟩ := held
  rw [fieldAt, bind_of_ok (u16At_of_holds inRange.declaringType.2 declaringType),
    toUInt32_ofNat_toNat inRange.declaringType.2, bind_of_ok (checked_of_lt inRange.declaringType.1),
    bind_of_ok (u16At_of_holds inRange.type.2 type), toUInt32_ofNat_toNat inRange.type.2,
    bind_of_ok (checked_of_lt inRange.type.1), bind_of_ok (u32At_toNat_of_holds name),
    bind_of_ok (checked_of_lt inRange.name)]
  rfl

/-- A method is read where its entry is held. -/
theorem methodAt_of_holds
    {data : Bytes}
    {container : Container}
    {offset : Nat}
    {id : MethodId}
    (inRange :
      id.InRange container.strings.size container.types.size container.protos.size)
    (held : Holds data offset id.entryBytes) :
    methodAt data container offset = .ok id := by
  simp only [MethodId.entryBytes, Holds.append_iff, List.length_append, length_le16, and_assoc,
    Nat.reduceAdd] at held
  obtain ⟨declaringType, proto, name⟩ := held
  rw [methodAt, bind_of_ok (u16At_of_holds inRange.declaringType.2 declaringType),
    toUInt32_ofNat_toNat inRange.declaringType.2, bind_of_ok (checked_of_lt inRange.declaringType.1),
    bind_of_ok (u16At_of_holds inRange.proto.2 proto), toUInt32_ofNat_toNat inRange.proto.2,
    bind_of_ok (checked_of_lt inRange.proto.1), bind_of_ok (u32At_toNat_of_holds name),
    bind_of_ok (checked_of_lt inRange.name)]
  rfl

end DexPatch
