import DexPatch.Image.Writer
import DexPatch.Proofs.Offsets

namespace DexPatch

/-!
# Members read back

The members of a class are listed under ascending numbers, and each number is
written as its difference from the one before it.  Differences wrap around, so
every list of numbers reads back, whatever its order.
-/

namespace Cursor

/-- What the reader gives first is put behind what it gave before, and counts as previous. -/
theorem ascendingFrom_of_ok
    {α : Type}
    {number : α → UInt32}
    {reader : UInt32 → Cursor α}
    {position next remaining : Nat}
    {previous : UInt32}
    {given : List α}
    {x : α}
    (read : reader previous position = .ok (x, next)) :
    ascendingFrom number reader (remaining + 1) previous given position =
      ascendingFrom number reader remaining (number x) (x :: given) next := by
  simp [ascendingFrom, read]

variable {α β : Type}

/-- Items behind the differences of their numbers are read in their order. -/
theorem ascendingFrom_of_holds
    {data : Bytes}
    (number : α → UInt32)
    {reader : UInt32 → Cursor α}
    (value : β → α)
    (piece : UInt32 × β → List UInt8)
    {list : List β}
    (each :
      ∀ x ∈ list, ∀ previous position,
        Holds data position (piece (number (value x) - previous, x)) →
          reader previous position =
            .ok (value x, position + (piece (number (value x) - previous, x)).length))
    {previous : UInt32}
    {position : Nat}
    (held :
      Holds data position
        ((List.zip (differences previous (list.map fun x => number (value x))) list).flatMap
          piece))
    (given : List α) :
    ascendingFrom number reader list.length previous given position =
      .ok
        (given.reverse ++ list.map value,
          position +
            ((List.zip (differences previous (list.map fun x => number (value x))) list).flatMap
              piece).length) := by
  induction list generalizing previous position given with
  | nil =>
      simp [ascendingFrom]
  | cons x rest inductionHypothesis =>
      simp only [List.map_cons, differences, List.zip_cons_cons, List.flatMap_cons] at held ⊢
      have read := each x (by simp) previous position held.left
      have readRest :=
        inductionHypothesis (fun y member => each y (by simp [member])) held.right
          (value x :: given)
      rw [List.length_cons, ascendingFrom_of_ok read]
      simpa [Nat.add_assoc] using readRest

end Cursor

/-- A checked number that is in range passes. -/
theorem checked_of_lt
    {pool : Pool}
    {size : Nat}
    {index : UInt32}
    (inRange : index.toNat < size) :
    checked pool size index = .ok index := by
  simp [checked, inRange]

/-- The difference from a number leads back from it. -/
theorem add_difference (previous index : UInt32) : previous + (index - previous) = index := by
  rw [UInt32.add_comm, UInt32.sub_add_cancel]

/-- A field is read behind the one before it, if the pool has its number. -/
theorem readMemberField_of_holds
    {data : Bytes}
    {fields position : Nat}
    {previous : UInt32}
    {member : MemberField}
    (inRange : member.field.toNat < fields)
    (held :
      Holds data position
        (Leb128.unsigned (member.field - previous) ++ Leb128.unsigned member.access)) :
    readMemberField data fields previous position =
      .ok
        (member,
          position +
            (Leb128.unsigned (member.field - previous) ++ Leb128.unsigned member.access).length) := by
  refine (Cursor.bind_of_ok (Cursor.Reads.unsigned _ held.left)).trans ?_
  rw [add_difference,
    Cursor.bind_of_ok (Cursor.lift_eq_ok_iff.mpr ⟨checked_of_lt inRange, rfl⟩),
    Cursor.bind_of_ok (Cursor.Reads.unsigned _ held.right)]
  simp [pure, StateT.pure, Except.pure, Nat.add_assoc]

/-- The fields of a class are read where they are held, if the pool has their numbers. -/
theorem readMemberFields_of_holds
    {data : Bytes}
    {fields position : Nat}
    {members : List MemberField}
    (inRange : ∀ member ∈ members, member.field.toNat < fields)
    (held : Holds data position (MemberField.listBytes members)) :
    Cursor.ascending MemberField.field members.length (readMemberField data fields) position =
      .ok (members, position + (MemberField.listBytes members).length) := by
  have read :=
    Cursor.ascendingFrom_of_holds MemberField.field id
      (fun entry => Leb128.unsigned entry.1 ++ Leb128.unsigned entry.2.access)
      (fun member isMember previous position held =>
        readMemberField_of_holds (inRange member isMember) held) held []
  rw [List.map_id] at read
  exact read

/-- A method is read behind the one before it, if the pool has its number and the offset leads to
its body. -/
theorem readMemberMethod_of_holds
    {data : Bytes}
    {methods position offset : Nat}
    {previous : UInt32}
    {member : MemberMethod}
    (inRange : member.method.toNat < methods)
    (fits : offset < 4294967296)
    (body : atOffset offset (bodyAt data) = .ok member.body)
    (held :
      Holds data position
        (Leb128.unsigned (member.method - previous) ++ Leb128.unsigned member.access ++
          Leb128.unsigned (UInt32.ofNat offset))) :
    readMemberMethod data methods previous position =
      .ok
        (member,
          position +
            (Leb128.unsigned (member.method - previous) ++ Leb128.unsigned member.access ++
              Leb128.unsigned (UInt32.ofNat offset)).length) := by
  have target : (UInt32.ofNat offset).toNat = offset := by
    simp
    omega
  have zero : UInt32.ofNat offset = 0 ↔ offset = 0 := by
    rw [← UInt32.toNat_inj, target]
    simp
  have second := held.left.right
  have third := held.right
  rw [List.length_append, ← Nat.add_assoc] at third
  refine (Cursor.bind_of_ok (Cursor.Reads.unsigned _ held.left.left)).trans ?_
  rw [add_difference, Cursor.bind_of_ok (Cursor.Reads.unsigned _ second),
    Cursor.bind_of_ok (Cursor.Reads.unsigned _ third),
    Cursor.bind_of_ok (Cursor.lift_eq_ok_iff.mpr ⟨checked_of_lt inRange, rfl⟩)]
  cases found : member.body with
  | none =>
      rw [found, atOffset_eq_none_iff] at body
      rw [if_pos (zero.mpr body)]
      simp [pure, StateT.pure, Except.pure, Nat.add_assoc, ← found]
  | some code =>
      rw [found, atOffset_eq_some_iff] at body
      rw [if_neg (fun absent => body.1 (zero.mp absent)), target,
        Cursor.bind_of_ok (Cursor.lift_eq_ok_iff.mpr ⟨body.2, rfl⟩)]
      simp [pure, StateT.pure, Except.pure, Nat.add_assoc, ← found]

/-- Offsets that lead to the bodies of methods. -/
def LeadToBodies (data : Bytes) (methods : List MemberMethod) (offsets : List Nat) : Prop :=
  offsets.length = methods.length ∧
    ∀ entry ∈ List.zip methods offsets,
      entry.2 < 4294967296 ∧ atOffset entry.2 (bodyAt data) = .ok entry.1.body

/-- Offsets for two lists of methods lead to the bodies of each. -/
theorem LeadToBodies.append_iff
    {data : Bytes}
    {first second : List MemberMethod}
    {offsets : List Nat}
    (lead : LeadToBodies data (first ++ second) offsets) :
    LeadToBodies data first (offsets.take first.length) ∧
      LeadToBodies data second (offsets.drop first.length) := by
  obtain ⟨length, each⟩ := lead
  have cut :
      List.zip (first ++ second) offsets =
        List.zip first (offsets.take first.length) ++
          List.zip second (offsets.drop first.length) := by
    conv => lhs; rw [← List.take_append_drop first.length offsets]
    rw [List.zip_append (by simp [length])]
  rw [cut] at each
  rw [List.length_append] at length
  constructor
  · exact ⟨by simp [length], fun entry member => each entry (by simp [member])⟩
  · exact ⟨by simp [length], fun entry member => each entry (by simp [member])⟩

/-- The methods of a class are read where they are held, if the pool has their numbers and the
offsets lead to their bodies. -/
theorem readMemberMethods_of_holds
    {data : Bytes}
    {methods position : Nat}
    {members : List MemberMethod}
    {offsets : List Nat}
    (inRange : ∀ member ∈ members, member.method.toNat < methods)
    (lead : LeadToBodies data members offsets)
    (held : Holds data position (MemberMethod.listBytes members offsets)) :
    Cursor.ascending MemberMethod.method members.length (readMemberMethod data methods) position =
      .ok (members, position + (MemberMethod.listBytes members offsets).length) := by
  obtain ⟨sameLength, each⟩ := lead
  have numbers :
      members.map (·.method) = (List.zip members offsets).map fun entry => entry.1.method := by
    have unzipped : (List.zip members offsets).map Prod.fst = members :=
      List.map_fst_zip (by omega)
    have first := congrArg (List.map (·.method)) unzipped
    rw [List.map_map] at first
    exact first.symm
  have count : (List.zip members offsets).length = members.length := by
    simp [sameLength]
  rw [MemberMethod.listBytes, numbers] at held ⊢
  have read :=
    Cursor.ascendingFrom_of_holds MemberMethod.method Prod.fst
      (fun entry =>
        Leb128.unsigned entry.1 ++ Leb128.unsigned entry.2.1.access ++
          Leb128.unsigned (UInt32.ofNat entry.2.2))
      (fun entry isEntry previous position held =>
        readMemberMethod_of_holds (inRange _ (List.of_mem_zip isEntry).1) (each entry isEntry).1
          (each entry isEntry).2 held) held []
  rw [count, List.map_fst_zip (by omega)] at read
  exact read

/-- The members of a class that pools of some sizes have. -/
@[mk_iff]
structure ClassData.InRange (classData : ClassData) (fields methods : Nat) : Prop where
  fields :
    ∀ member ∈ classData.staticFields ++ classData.instanceFields, member.field.toNat < fields
  methods :
    ∀ member ∈ classData.directMethods ++ classData.virtualMethods, member.method.toNat < methods

instance (data : ClassData) (fields methods : Nat) : Decidable (data.InRange fields methods) :=
  decidable_of_iff _ (ClassData.inRange_iff data fields methods).symm

/-- Differences are as many as the numbers. -/
theorem length_differences (previous : UInt32) (numbers : List UInt32) :
    (differences previous numbers).length = numbers.length := by
  induction numbers generalizing previous with
  | nil =>
      rfl
  | cons number rest inductionHypothesis =>
      simp [differences, inductionHypothesis]

theorem MemberField.length_le_listBytes (members : List MemberField) :
    members.length ≤ (listBytes members).length := by
  have few :=
    length_le_length_flatMap
      (fun entry => Leb128.unsigned entry.1 ++ Leb128.unsigned entry.2.access)
      (List.zip (differences 0 (members.map (·.field))) members)
      fun entry _ => by
        have := Leb128.length_unsigned_pos entry.1
        simp only [List.length_append]
        omega
  simp only [List.length_zip, length_differences, List.length_map, Nat.min_self] at few
  exact few

theorem MemberMethod.length_le_listBytes
    {members : List MemberMethod}
    {offsets : List Nat}
    (sameLength : offsets.length = members.length) :
    members.length ≤ (listBytes members offsets).length := by
  have few :=
    length_le_length_flatMap
      (fun entry =>
        Leb128.unsigned entry.1 ++ Leb128.unsigned entry.2.1.access ++
          Leb128.unsigned (UInt32.ofNat entry.2.2))
      (List.zip (differences 0 (members.map (·.method))) (List.zip members offsets))
      fun entry _ => by
        have := Leb128.length_unsigned_pos entry.1
        simp only [List.length_append]
        omega
  simp only [List.length_zip, length_differences, List.length_map, sameLength,
    Nat.min_self] at few
  exact few

/-- The members of a class are read where they are held. -/
theorem readClassData_of_holds
    {data : Bytes}
    {container : Container}
    {classData : ClassData}
    {offsets : List Nat}
    {position : Nat}
    (fits : data.size < 4294967296)
    (inRange : classData.InRange container.fields.size container.methods.size)
    (lead : LeadToBodies data (classData.directMethods ++ classData.virtualMethods) offsets)
    (held : Holds data position (classData.bytes offsets)) :
    (readClassData data container).readAt position = .ok classData := by
  have inside := held.le_size
  obtain ⟨directLead, virtualLead⟩ := lead.append_iff
  have staticFew := MemberField.length_le_listBytes classData.staticFields
  have instanceFew := MemberField.length_le_listBytes classData.instanceFields
  have directFew := MemberMethod.length_le_listBytes directLead.1
  have virtualFew := MemberMethod.length_le_listBytes virtualLead.1
  have count {n : Nat} (small : n < 4294967296) : (UInt32.ofNat n).toNat = n := by
    simp
    omega
  simp only [ClassData.bytes, List.length_append] at inside
  simp only [ClassData.bytes, Holds.append_iff, List.length_append, and_assoc,
    ← Nat.add_assoc] at held
  obtain ⟨staticCount, instanceCount, directCount, virtualCount, staticFields, instanceFields,
    directMethods, virtualMethods⟩ := held
  have readsStatic :=
    readMemberFields_of_holds
      (fun member isMember => inRange.fields member (List.mem_append_left _ isMember)) staticFields
  have readsInstance :=
    readMemberFields_of_holds
      (fun member isMember => inRange.fields member (List.mem_append_right _ isMember))
      instanceFields
  have readsDirect :=
    readMemberMethods_of_holds
      (fun member isMember => inRange.methods member (List.mem_append_left _ isMember))
      directLead directMethods
  have readsVirtual :=
    readMemberMethods_of_holds
      (fun member isMember => inRange.methods member (List.mem_append_right _ isMember))
      virtualLead virtualMethods
  rw [readClassData, Cursor.readAt_bind_of_ok (Cursor.Reads.unsigned _ staticCount),
    Cursor.readAt_bind_of_ok (Cursor.Reads.unsigned _ instanceCount),
    Cursor.readAt_bind_of_ok (Cursor.Reads.unsigned _ directCount),
    Cursor.readAt_bind_of_ok (Cursor.Reads.unsigned _ virtualCount)]
  dsimp only
  rw [count (by omega), count (by omega), count (by omega), count (by omega),
    Cursor.readAt_bind_of_ok readsStatic, Cursor.readAt_bind_of_ok readsInstance,
    Cursor.readAt_bind_of_ok readsDirect, Cursor.readAt_bind_of_ok readsVirtual]
  rfl

end DexPatch
