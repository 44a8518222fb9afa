import DexPatch.Proofs.Resolution
import DexPatch.Proofs.RoundTrip

namespace DexPatch

/-!
# What is read is shaped

A container read from an image has the shape of one that an image can hold:
strings without zero bytes, debug steps with opcodes of their own, handlers
that catch something, and none in bodies without try ranges.  All numbers in
its pools and its classes are numbers of entries.
-/

namespace Cursor

variable {α β : Type}

/-- Whatever the cursor gives, wherever it starts, has the property. -/
def Ensures (cursor : Cursor α) (holds : α → Prop) : Prop :=
  ∀ ⦃position stop : Nat⦄ ⦃x : α⦄, cursor position = .ok (x, stop) → holds x

namespace Ensures

theorem pure
    {holds : α → Prop}
    {x : α}
    (has : holds x) :
    Ensures (Pure.pure x) holds := by
  intro position stop y read
  obtain ⟨rfl, -⟩ := pure_eq_ok_iff.mp read
  exact has

/-- A chain ensures what its rest ensures of all results that the first cursor can give. -/
theorem bind
    {first : Cursor α}
    {next : α → Cursor β}
    {between : α → Prop}
    {holds : β → Prop}
    (ensuresFirst : first.Ensures between)
    (ensuresNext : ∀ x, between x → (next x).Ensures holds) :
    (first >>= next).Ensures holds := by
  intro position stop y read
  obtain ⟨x, middle, readsFirst, readsNext⟩ := bind_eq_ok_iff.mp read
  exact ensuresNext x (ensuresFirst readsFirst) readsNext

/-- A chain ensures what its rest ensures, whatever is read first. -/
theorem behind
    {first : Cursor α}
    {next : α → Cursor β}
    {holds : β → Prop}
    (ensuresNext : ∀ x, (next x).Ensures holds) :
    (first >>= next).Ensures holds :=
  bind (fun _ _ _ _ => trivial) fun x _ => ensuresNext x

theorem lift
    {check : Except DecodeError α}
    {holds : α → Prop}
    (has : ∀ x, check = .ok x → holds x) :
    Ensures (liftM check) holds := by
  intro position stop x read
  exact has x (lift_eq_ok_iff.mp read).1

/-- A repeated reader gives as many values as it is told to, all of which have what it ensures. -/
theorem times
    {reader : Cursor α}
    {holds : α → Prop}
    (ensures : reader.Ensures holds)
    (count : Nat) :
    (Cursor.times count reader).Ensures fun list => list.length = count ∧ ∀ x ∈ list, holds x := by
  intro position stop list read
  obtain ⟨length, each⟩ := exists_of_times read
  refine ⟨length, fun x member => ?_⟩
  obtain ⟨start, next, readsOne⟩ := each x member
  exact ensures readsOne

theorem ascendingFrom
    {number : α → UInt32}
    {reader : UInt32 → Cursor α}
    {holds : α → Prop}
    (ensures : ∀ previous, (reader previous).Ensures holds)
    (remaining : Nat)
    (previous : UInt32)
    {given : List α}
    (hasGiven : ∀ x ∈ given, holds x) :
    (Cursor.ascendingFrom number reader remaining previous given).Ensures
      fun list => ∀ x ∈ list, holds x := by
  intro position stop list read
  induction remaining generalizing previous given position with
  | zero =>
      simp only [Cursor.ascendingFrom, Except.ok.injEq, Prod.mk.injEq] at read
      obtain ⟨rfl, -⟩ := read
      simpa using hasGiven
  | succ remaining inductionHypothesis =>
      rw [Cursor.ascendingFrom] at read
      cases head : reader previous position with
      | error error =>
          simp [head] at read
      | ok item =>
          obtain ⟨x, next⟩ := item
          simp only [head] at read
          exact inductionHypothesis (number x)
            (List.forall_mem_cons.mpr ⟨ensures previous head, hasGiven⟩) read

/-- Items in ascending order have what each of them is read with. -/
theorem ascending
    {number : α → UInt32}
    {reader : UInt32 → Cursor α}
    {holds : α → Prop}
    (ensures : ∀ previous, (reader previous).Ensures holds)
    (count : Nat) :
    (Cursor.ascending number count reader).Ensures fun list => ∀ x ∈ list, holds x :=
  ascendingFrom ensures count 0 (by simp)

theorem readAt
    {cursor : Cursor α}
    {holds : α → Prop}
    (ensures : cursor.Ensures holds)
    {offset : Nat}
    {x : α}
    (read : cursor.readAt offset = .ok x) :
    holds x := by
  obtain ⟨stop, reads⟩ := readAt_eq_ok_iff.mp read
  exact ensures reads

end Ensures

end Cursor

/-! ## Bodies -/

open Cursor.Ensures in
/-- A step that is not the end of the steps has an opcode of its own. -/
theorem readDebugOp_ensures
    (data : Bytes)
    {opcode : UInt8}
    (notEnd : opcode ≠ 0) :
    (readDebugOp data opcode).Ensures DebugOp.Shaped := by
  unfold readDebugOp
  split
  · exact behind fun _ => pure trivial
  · exact behind fun _ => pure trivial
  · exact behind fun _ => behind fun _ => behind fun _ => pure trivial
  · exact behind fun _ => behind fun _ => behind fun _ => behind fun _ => pure trivial
  · exact behind fun _ => pure trivial
  · exact behind fun _ => pure trivial
  · exact pure trivial
  · exact pure trivial
  · exact behind fun _ => pure trivial
  · refine pure ?_
    have notZero : opcode.toNat ≠ 0 := fun zero => notEnd (UInt8.toNat_inj.mp zero)
    simp only [imp_false] at *
    show 0x0a ≤ opcode.toNat
    omega

theorem debugOpsWithin_ensures
    (data : Bytes)
    (budget : Nat)
    {given : List DebugOp}
    (shaped : ∀ op ∈ given, op.Shaped) :
    (debugOpsWithin data budget given).Ensures fun ops => ∀ op ∈ ops, op.Shaped := by
  induction budget generalizing given with
  | zero =>
      intro position stop ops read
      simp [debugOpsWithin] at read
  | succ budget inductionHypothesis =>
      rw [debugOpsWithin]
      refine .behind fun opcode => ?_
      split
      · exact .pure (by simpa using shaped)
      · next notEnd =>
          refine .bind (readDebugOp_ensures data notEnd) fun op isShaped => ?_
          exact inductionHypothesis (List.forall_mem_cons.mpr ⟨isShaped, shaped⟩)

theorem readDebugInfo_ensures (data : Bytes) :
    (readDebugInfo data).Ensures fun debug => ∀ op ∈ debug.ops, op.Shaped := by
  refine .behind fun _ => .behind fun _ => .behind fun _ => .bind ?_ fun _ shaped => .pure shaped
  intro position stop ops read
  exact debugOpsWithin_ensures data _ (by simp) read

/-- A handler that is read catches something. -/
theorem readHandler_ensures (data : Bytes) :
    (readHandler data).Ensures CatchHandler.Shaped := by
  refine .behind fun count => .bind (.times (fun _ _ _ _ => trivial) _) fun catches length => ?_
  split
  · exact .behind fun _ => .pure fun _ => rfl
  · next positive =>
      refine .pure fun none => ?_
      have zero : count.toInt.natAbs = 0 := by
        rw [← length.1, show catches = [] from none, List.length_nil]
      omega

theorem readHandlers_ensures (data : Bytes) :
    (readHandlers data).Ensures fun handlers => ∀ handler ∈ handlers.map (·.2), handler.Shaped := by
  refine .behind fun count => ?_
  intro position stop handlers read
  have one :
      Cursor.Ensures (do
        let start ← get
        return (start, ← readHandler data))
        fun placed => placed.2.Shaped :=
    .behind fun start => .bind (readHandler_ensures data) fun handler shaped => .pure shaped
  exact List.forall_mem_map.mpr (one.times count.toNat read).2

theorem triesAt_shaped
    {data : Bytes}
    {offset count : Nat}
    {tries : List TryRange}
    {handlers : List CatchHandler}
    (read : triesAt data offset count = .ok (tries, handlers)) :
    tries.length = count ∧ ∀ handler ∈ handlers, handler.Shaped := by
  obtain ⟨list, readsHandlers, read⟩ := bind_eq_ok_iff.mp read
  obtain ⟨ranges, collected, read⟩ := bind_eq_ok_iff.mp read
  simp only [pure, Except.pure, Except.ok.injEq, Prod.mk.injEq] at read
  obtain ⟨rfl, rfl⟩ := read
  exact ⟨(collect_eq_ok_iff.mp collected).1, (readHandlers_ensures data).readAt readsHandlers⟩

/-- A body that is read is shaped. -/
theorem bodyAt_shaped
    {data : Bytes}
    {offset : Nat}
    {body : Body}
    (read : bodyAt data offset = .ok body) :
    body.Shaped := by
  obtain ⟨registers, -, read⟩ := bind_eq_ok_iff.mp read
  obtain ⟨ins, -, read⟩ := bind_eq_ok_iff.mp read
  obtain ⟨outs, -, read⟩ := bind_eq_ok_iff.mp read
  obtain ⟨tryCount, -, read⟩ := bind_eq_ok_iff.mp read
  obtain ⟨debugAt, -, read⟩ := bind_eq_ok_iff.mp read
  obtain ⟨size, -, read⟩ := bind_eq_ok_iff.mp read
  obtain ⟨code, -, read⟩ := bind_eq_ok_iff.mp read
  simp only [ite_bind] at read
  obtain ⟨⟨tries, handlers⟩, guards, read⟩ := bind_eq_ok_iff.mp read
  obtain ⟨debug, readsDebug, read⟩ := bind_eq_ok_iff.mp read
  simp only [pure, Except.pure, Except.ok.injEq] at read
  subst read
  have few := tryCount.toNat_lt
  have steps : ∀ info ∈ debug, ∀ op ∈ info.ops, op.Shaped := by
    split at readsDebug
    · simp only [pure, Except.pure, Except.ok.injEq] at readsDebug
      simp [← readsDebug]
    · obtain ⟨info, readsInfo, rfl⟩ := map_eq_ok_iff.mp readsDebug
      simpa using (readDebugInfo_ensures data).readAt readsInfo
  split at guards
  · simp only [pure, Except.pure, Except.ok.injEq, Prod.mk.injEq] at guards
    obtain ⟨rfl, rfl⟩ := guards
    exact ⟨steps, by simp, by simp, fun _ => rfl⟩
  · next some =>
      obtain ⟨length, shaped⟩ := triesAt_shaped guards
      refine ⟨steps, by dsimp only; omega, shaped, fun empty => ?_⟩
      dsimp only at empty
      simp [empty] at length
      omega

/-! ## Numbers of entries -/

theorem checked_eq_ok_iff
    {pool : Pool}
    {size : Nat}
    {index result : UInt32} :
    checked pool size index = .ok result ↔ result = index ∧ index.toNat < size := by
  unfold checked
  split
  · next inside =>
      simp [inside, eq_comm]
  · next outside =>
      simp [outside]

theorem checked_ensures
    (pool : Pool)
    (size : Nat)
    (index : UInt32) :
    Cursor.Ensures (liftM (checked pool size index)) fun index => index.toNat < size :=
  .lift fun result isChecked => by
    obtain ⟨rfl, inside⟩ := checked_eq_ok_iff.mp isChecked
    exact inside

/-- A field that is read is one of the pool. -/
theorem readMemberField_ensures
    (data : Bytes)
    (fields : Nat)
    (previous : UInt32) :
    (readMemberField data fields previous).Ensures fun member => member.field.toNat < fields := by
  exact .behind fun _ => .bind (checked_ensures _ _ _) fun field inside =>
    .behind fun _ => .pure inside

/-- A method that is read is one of the pool, and its body is shaped. -/
theorem readMemberMethod_ensures
    (data : Bytes)
    (methods : Nat)
    (previous : UInt32) :
    (readMemberMethod data methods previous).Ensures fun member =>
      member.method.toNat < methods ∧ ∀ body ∈ member.body, body.Shaped := by
  refine .behind fun _ => .behind fun _ => .behind fun _ =>
    .bind (checked_ensures _ _ _) fun method inside => ?_
  split
  · exact .pure ⟨inside, by simp⟩
  · refine .bind (.lift fun body read => bodyAt_shaped read) fun body shaped => .pure ?_
    exact ⟨inside, by simpa using shaped⟩

/-- The members of a class that is read are those of the pools, and their bodies are shaped. -/
theorem readClassData_ensures
    (data : Bytes)
    (pools : Container) :
    (readClassData data pools).Ensures fun members =>
      members.InRange pools.fields.size pools.methods.size ∧
        ∀ method ∈ members.allMethods, ∀ body ∈ method.body, body.Shaped := by
  have fields (count : UInt32) :
      (Cursor.ascending MemberField.field count.toNat
          (readMemberField data pools.fields.size)).Ensures fun list =>
        ∀ member ∈ list, member.field.toNat < pools.fields.size :=
    .ascending (readMemberField_ensures data pools.fields.size) count.toNat
  have methods (count : UInt32) :
      (Cursor.ascending MemberMethod.method count.toNat
          (readMemberMethod data pools.methods.size)).Ensures fun list =>
        ∀ member ∈ list,
          member.method.toNat < pools.methods.size ∧ ∀ body ∈ member.body, body.Shaped :=
    .ascending (readMemberMethod_ensures data pools.methods.size) count.toNat
  refine .behind fun staticCount => .behind fun instanceCount => .behind fun directCount =>
    .behind fun virtualCount => ?_
  refine .bind (fields staticCount) fun staticFields statics =>
    .bind (fields instanceCount) fun instanceFields instances =>
      .bind (methods directCount) fun directMethods directs =>
        .bind (methods virtualCount) fun virtualMethods virtuals => .pure ⟨⟨?_, ?_⟩, ?_⟩
  · exact List.forall_mem_append.mpr ⟨statics, instances⟩
  · exact List.forall_mem_append.mpr
      ⟨fun method member => (directs method member).1,
        fun method member => (virtuals method member).1⟩
  · exact List.forall_mem_append.mpr
      ⟨fun method member => (directs method member).2,
        fun method member => (virtuals method member).2⟩

/-- Types that are read are types of the pool, in 16 bits each. -/
theorem typeListAt_inRange
    {data : Bytes}
    {types offset : Nat}
    {list : List UInt32}
    (read : typeListAt data types offset = .ok list) :
    ∀ type ∈ list, type.toNat < types ∧ type.toNat < 65536 := by
  unfold typeListAt at read
  split at read
  · simp only [pure, Except.pure, Except.ok.injEq] at read
    simp [← read]
  · obtain ⟨count, -, collected⟩ := bind_eq_ok_iff.mp read
    intro type member
    obtain ⟨i, -, readsOne⟩ := exists_of_mem_collect collected member
    obtain ⟨index, -, isType⟩ := bind_eq_ok_iff.mp readsOne
    obtain ⟨rfl, inside⟩ := checked_eq_ok_iff.mp isType
    exact ⟨inside, by simpa using index.toNat_lt⟩

theorem optionalAt_inRange
    {data : Bytes}
    {pool : Pool}
    {size offset : Nat}
    {option : Option UInt32}
    (read : optionalAt data pool size offset = .ok option) :
    ∀ index ∈ option, index.toNat < size := by
  obtain ⟨index, -, read⟩ := bind_eq_ok_iff.mp read
  split at read
  · simp only [pure, Except.pure, Except.ok.injEq] at read
    simp [← read]
  · obtain ⟨result, isChecked, gives⟩ := bind_eq_ok_iff.mp read
    obtain ⟨rfl, inside⟩ := checked_eq_ok_iff.mp isChecked
    simp only [pure, Except.pure, Except.ok.injEq] at gives
    simpa [← gives] using inside

/-- A class that is read has its numbers in the pools, and shaped bodies. -/
theorem classAt_inRange
    {data : Bytes}
    {pools : Container}
    {offset : Nat}
    {classDef : ClassDef}
    (read : classAt data pools offset = .ok classDef) :
    classDef.InRange pools ∧
      ∀ method ∈ classDef.allMethods, ∀ body ∈ method.body, body.Shaped := by
  obtain ⟨superclass, readsSuperclass, read⟩ := bind_eq_ok_iff.mp read
  obtain ⟨sourceFile, readsSourceFile, read⟩ := bind_eq_ok_iff.mp read
  obtain ⟨annotationsAt, -, read⟩ := bind_eq_ok_iff.mp read
  obtain ⟨dataAt, -, read⟩ := bind_eq_ok_iff.mp read
  obtain ⟨staticValuesAt, -, read⟩ := bind_eq_ok_iff.mp read
  obtain ⟨typeField, -, read⟩ := bind_eq_ok_iff.mp read
  obtain ⟨type, readsType, read⟩ := bind_eq_ok_iff.mp read
  obtain ⟨access, -, read⟩ := bind_eq_ok_iff.mp read
  obtain ⟨interfacesAt, -, read⟩ := bind_eq_ok_iff.mp read
  obtain ⟨interfaces, readsInterfaces, read⟩ := bind_eq_ok_iff.mp read
  obtain ⟨annotations, -, read⟩ := bind_eq_ok_iff.mp read
  obtain ⟨members, readsMembers, read⟩ := bind_eq_ok_iff.mp read
  obtain ⟨staticValues, -, read⟩ := bind_eq_ok_iff.mp read
  simp only [pure, Except.pure, Except.ok.injEq] at read
  subst read
  obtain ⟨rfl, typeInside⟩ := checked_eq_ok_iff.mp readsType
  have ensured :
      ∀ list ∈ members,
        list.InRange pools.fields.size pools.methods.size ∧
          ∀ method ∈ list.allMethods, ∀ body ∈ method.body, body.Shaped := by
    cases members with
    | none =>
        simp
    | some list =>
        obtain ⟨-, readsList⟩ := atOffset_eq_some_iff.mp readsMembers
        simpa using (readClassData_ensures data pools).readAt readsList
  refine ⟨⟨typeInside, optionalAt_inRange readsSuperclass, typeListAt_inRange readsInterfaces,
    optionalAt_inRange readsSourceFile, fun list isList => (ensured list isList).1⟩, ?_⟩
  exact Container.forall_mem_allMethods.mpr fun list isList => (ensured list isList).2

/-- Every entry of a table that is read was read at some offset. -/
theorem exists_of_mem_readTable
    {α : Type}
    {data : Bytes}
    {position entrySize : Nat}
    {entry : Nat → Except DecodeError α}
    {table : Array α}
    (read : readTable data position entrySize entry = .ok table)
    {x : α}
    (member : x ∈ table) :
    ∃ offset, entry offset = .ok x := by
  obtain ⟨⟨count, start⟩, -, read⟩ := bind_eq_ok_iff.mp read
  obtain ⟨list, collected, read⟩ := bind_eq_ok_iff.mp read
  simp only [pure, Except.pure, Except.ok.injEq] at read
  subst read
  obtain ⟨i, -, readsOne⟩ := exists_of_mem_collect collected (List.mem_toArray.mp member)
  exact ⟨_, readsOne⟩

/-- Looking for a zero byte passes over none. -/
theorem getElem?_ne_zero_of_zeroWithin
    {data : Bytes}
    {budget position stop : Nat}
    (found : zeroWithin data budget position = some stop)
    {i : Nat}
    (behind : position ≤ i)
    (before : i < stop) :
    data[i]? ≠ some 0 := by
  induction budget generalizing position with
  | zero =>
      simp [zeroWithin] at found
  | succ budget inductionHypothesis =>
      rw [zeroWithin] at found
      cases here : data[position]? with
      | none =>
          simp [here] at found
      | some byte =>
          simp only [here] at found
          split at found
          · simp only [Option.some.injEq] at found
            omega
          · next nonzero =>
              rcases Nat.eq_or_lt_of_le behind with rfl | later
              · simpa [here] using nonzero
              · exact inductionHypothesis found later

/-- A string that is read holds no zero byte. -/
theorem stringAt_noZeros
    {data : Bytes}
    {offset : Nat}
    {string : PoolString}
    (read : stringAt data offset = .ok string) :
    0 ∉ string.data := by
  obtain ⟨⟨length, start⟩, -, read⟩ := bind_eq_ok_iff.mp read
  dsimp only at read
  split at read
  · simp [throw, throwThe, MonadExceptOf.throw] at read
  · next stop found =>
      simp only [pure, Except.pure, Except.ok.injEq] at read
      subst read
      intro member
      obtain ⟨i, zero⟩ := List.mem_iff_getElem?.mp member
      rw [Array.getElem?_toList, Array.getElem?_extract] at zero
      split at zero
      · next inside =>
          exact getElem?_ne_zero_of_zeroWithin found (Nat.le_add_right start i) (by omega) zero
      · simp at zero

/-- Prototypes that are read have their numbers in the pools. -/
theorem protoAt_inRange
    {data : Bytes}
    {pools : Container}
    {offset : Nat}
    {proto : Proto}
    (read : protoAt data pools offset = .ok proto) :
    proto.InRange pools.strings.size pools.types.size := by
  obtain ⟨shortyField, -, read⟩ := bind_eq_ok_iff.mp read
  obtain ⟨shorty, readsShorty, read⟩ := bind_eq_ok_iff.mp read
  obtain ⟨returnField, -, read⟩ := bind_eq_ok_iff.mp read
  obtain ⟨returnType, readsReturn, read⟩ := bind_eq_ok_iff.mp read
  obtain ⟨parametersAt, -, read⟩ := bind_eq_ok_iff.mp read
  obtain ⟨parameters, readsParameters, read⟩ := bind_eq_ok_iff.mp read
  simp only [pure, Except.pure, Except.ok.injEq] at read
  subst read
  obtain ⟨rfl, shortyInside⟩ := checked_eq_ok_iff.mp readsShorty
  obtain ⟨rfl, returnInside⟩ := checked_eq_ok_iff.mp readsReturn
  exact ⟨shortyInside, returnInside, typeListAt_inRange readsParameters⟩

/-- A number read in 16 bits and found in its pool. -/
theorem checked_toUInt32
    {pool : Pool}
    {size : Nat}
    {field : UInt16}
    {index : UInt32}
    (isChecked : checked pool size field.toUInt32 = .ok index) :
    index.toNat < size ∧ index.toNat < 65536 := by
  obtain ⟨rfl, inside⟩ := checked_eq_ok_iff.mp isChecked
  exact ⟨inside, by simpa using field.toNat_lt⟩

/-- Fields that are read have their numbers in the pools. -/
theorem fieldAt_inRange
    {data : Bytes}
    {pools : Container}
    {offset : Nat}
    {id : FieldId}
    (read : fieldAt data pools offset = .ok id) :
    id.InRange pools.strings.size pools.types.size := by
  obtain ⟨declaringField, -, read⟩ := bind_eq_ok_iff.mp read
  obtain ⟨declaringType, readsDeclaring, read⟩ := bind_eq_ok_iff.mp read
  obtain ⟨typeField, -, read⟩ := bind_eq_ok_iff.mp read
  obtain ⟨type, readsType, read⟩ := bind_eq_ok_iff.mp read
  obtain ⟨nameField, -, read⟩ := bind_eq_ok_iff.mp read
  obtain ⟨name, readsName, read⟩ := bind_eq_ok_iff.mp read
  simp only [pure, Except.pure, Except.ok.injEq] at read
  subst read
  obtain ⟨rfl, nameInside⟩ := checked_eq_ok_iff.mp readsName
  exact ⟨checked_toUInt32 readsDeclaring, checked_toUInt32 readsType, nameInside⟩

/-- Methods that are read have their numbers in the pools. -/
theorem methodAt_inRange
    {data : Bytes}
    {pools : Container}
    {offset : Nat}
    {id : MethodId}
    (read : methodAt data pools offset = .ok id) :
    id.InRange pools.strings.size pools.types.size pools.protos.size := by
  obtain ⟨declaringField, -, read⟩ := bind_eq_ok_iff.mp read
  obtain ⟨declaringType, readsDeclaring, read⟩ := bind_eq_ok_iff.mp read
  obtain ⟨protoField, -, read⟩ := bind_eq_ok_iff.mp read
  obtain ⟨proto, readsProto, read⟩ := bind_eq_ok_iff.mp read
  obtain ⟨nameField, -, read⟩ := bind_eq_ok_iff.mp read
  obtain ⟨name, readsName, read⟩ := bind_eq_ok_iff.mp read
  simp only [pure, Except.pure, Except.ok.injEq] at read
  subst read
  obtain ⟨rfl, nameInside⟩ := checked_eq_ok_iff.mp readsName
  exact ⟨checked_toUInt32 readsDeclaring, checked_toUInt32 readsProto, nameInside⟩

/-- A header that is read tells a supported version. -/
theorem readHeader_isSupported
    {data : Bytes}
    {version : Version}
    (read : readHeader data = .ok version) :
    version.isSupported := by
  obtain ⟨header, -, read⟩ := bind_eq_ok_iff.mp read
  split at read
  · next d e x newline first second third zero rest =>
      dsimp only at read
      split at read
      · simp [throw, throwThe, MonadExceptOf.throw, bind, Except.bind] at read
      · split at read
        · simp [throw, throwThe, MonadExceptOf.throw, bind, Except.bind] at read
        · next supported =>
            obtain ⟨tag, -, read⟩ := bind_eq_ok_iff.mp read
            split at read
            · simp [throw, throwThe, MonadExceptOf.throw, bind, Except.bind] at read
            · obtain ⟨size, -, read⟩ := bind_eq_ok_iff.mp read
              split at read
              · simp [throw, throwThe, MonadExceptOf.throw, bind, Except.bind] at read
              · simp only [pure, Except.pure, Except.ok.injEq] at read
                subst read
                simpa using supported
  · simp [throw, throwThe, MonadExceptOf.throw] at read

/-! ## Sections -/

/-- A hidden-API section as it is read: the length that it starts with is its own, as far as it
has room for it. -/
def HeadedByLength (blob : Bytes) : Prop :=
  blob.toList.take 4 = (le32 blob.size).take blob.size

/-- Bytes that are read are held where they are read. -/
theorem holds_of_bytesAt
    {data : Bytes}
    {offset length : Nat}
    {bytes : List UInt8}
    (read : bytesAt data offset length = .ok bytes) :
    bytes.length = length ∧ Holds data offset bytes := by
  unfold bytesAt at read
  split at read
  · next slice found =>
      simp only [Except.ok.injEq] at read
      rw [read] at found
      have length : bytes.length = length := by
        have shape := found
        unfold slice? at shape
        split at shape
        · simp only [Option.some.injEq] at shape
          rw [← shape, Array.length_toList, Array.size_extract]
          omega
        · simp at shape
      exact ⟨length, by rw [Holds, length, found]⟩
  · simp at read

/-- The digits of a number made of digits are these. -/
theorem littleEndian_ofLittleEndian (digits : List UInt8) :
    littleEndian digits.length (ofLittleEndian digits) = digits := by
  induction digits with
  | nil =>
      rfl
  | cons digit rest inductionHypothesis =>
      have low : UInt8.ofNat (digit.toNat + 256 * ofLittleEndian rest) = digit := by
        apply UInt8.toNat_inj.mp
        simp
      have high : (digit.toNat + 256 * ofLittleEndian rest) / 256 = ofLittleEndian rest := by
        have := digit.toNat_lt
        omega
      rw [List.length_cons, ofLittleEndian, littleEndian, low, high, inductionHypothesis]

/-- A number that is read is held where it is read. -/
theorem holds_of_natAt
    {data : Bytes}
    {offset n : Nat}
    (read : natAt data offset = .ok n) :
    Holds data offset (le32 n) := by
  obtain ⟨field, readsField, read⟩ := bind_eq_ok_iff.mp read
  obtain ⟨number, readsNumber, gives⟩ := bind_eq_ok_iff.mp readsField
  simp only [pure, Except.pure, Except.ok.injEq] at read gives
  unfold numberAt at readsNumber
  split at readsNumber
  · next digits readsDigits =>
      obtain ⟨length, held⟩ := holds_of_bytesAt readsDigits
      simp only [Except.ok.injEq] at readsNumber
      have small := ofLittleEndian_lt digits
      rw [length] at small
      have value : n = ofLittleEndian digits := by
        rw [← read, ← gives, ← readsNumber]
        simp
        exact small
      have back := littleEndian_ofLittleEndian digits
      rw [length, ← value] at back
      rwa [le32, back]
  · simp at readsNumber

/-- Two pieces held at one offset agree as far as both reach. -/
theorem Holds.take_eq_take
    {data : Bytes}
    {offset : Nat}
    {first second : List UInt8}
    (heldFirst : Holds data offset first)
    (heldSecond : Holds data offset second) :
    first.take second.length = second.take first.length := by
  have cutFirst := (Holds.iff_take.mp heldFirst).2
  have cutSecond := (Holds.iff_take.mp heldSecond).2
  rw [← cutFirst, ← cutSecond]
  simp only [List.length_take, List.take_take]
  congr 1
  omega

/-- Reading a section keeps the pools, and a hidden-API section that is read is headed by its
length. -/
theorem readSection_spec
    {data : Bytes}
    {container result : Container}
    {offset : Nat}
    (read : readSection data container offset = .ok result)
    (headed : ∀ blob ∈ container.hiddenApi, HeadedByLength blob) :
    result = container.withSections result ∧
      ∀ blob ∈ result.hiddenApi, HeadedByLength blob := by
  obtain ⟨kind, -, read⟩ := bind_eq_ok_iff.mp read
  dsimp only at read
  obtain ⟨count, -, read⟩ := bind_eq_ok_iff.mp read
  obtain ⟨start, -, read⟩ := bind_eq_ok_iff.mp read
  split at read
  · obtain ⟨callSites, -, read⟩ := bind_eq_ok_iff.mp read
    simp only [pure, Except.pure, Except.ok.injEq] at read
    subst read
    exact ⟨rfl, headed⟩
  · split at read
    · obtain ⟨methodHandles, -, read⟩ := bind_eq_ok_iff.mp read
      simp only [pure, Except.pure, Except.ok.injEq] at read
      subst read
      exact ⟨rfl, headed⟩
    · split at read
      · obtain ⟨size, readsSize, read⟩ := bind_eq_ok_iff.mp read
        obtain ⟨blob, readsBlob, read⟩ := bind_eq_ok_iff.mp read
        simp only [pure, Except.pure, Except.ok.injEq] at read
        subst read
        refine ⟨rfl, ?_⟩
        obtain ⟨length, held⟩ := holds_of_bytesAt readsBlob
        have agree := held.take_eq_take (holds_of_natAt readsSize)
        rw [length_le32, length] at agree
        simpa [HeadedByLength, length] using agree
      · simp only [pure, Except.pure, Except.ok.injEq] at read
        subst read
        exact ⟨rfl, headed⟩

/-- Reading all sections keeps the pools, and leaves a hidden-API section headed by its length. -/
theorem readSections_spec
    {data : Bytes}
    {remaining offset : Nat}
    {container result : Container}
    (read : readSections data remaining offset container = .ok result)
    (headed : ∀ blob ∈ container.hiddenApi, HeadedByLength blob) :
    result = container.withSections result ∧
      ∀ blob ∈ result.hiddenApi, HeadedByLength blob := by
  induction remaining generalizing offset container with
  | zero =>
      simp only [readSections, Except.ok.injEq] at read
      subst read
      exact ⟨rfl, headed⟩
  | succ remaining inductionHypothesis =>
      rw [readSections_succ] at read
      obtain ⟨next, first, read⟩ := bind_eq_ok_iff.mp read
      obtain ⟨keeps, headedNext⟩ := readSection_spec first headed
      obtain ⟨keepsRest, headedResult⟩ := inductionHypothesis read headedNext
      refine ⟨?_, headedResult⟩
      rw [keepsRest, keeps]
      rfl

namespace Container

/-- What an image holds is shaped, with all numbers in range, and a hidden-API section headed by
its length. -/
theorem decode_spec
    {image : Bytes}
    {container : Container}
    (decoded : decode image = .ok container) :
    container.Shaped ∧ container.InRange ∧
      ∀ blob ∈ container.hiddenApi, HeadedByLength blob := by
  obtain ⟨version, readsVersion, read⟩ := bind_eq_ok_iff.mp decoded
  obtain ⟨strings, readsStrings, read⟩ := bind_eq_ok_iff.mp read
  obtain ⟨types, readsTypes, read⟩ := bind_eq_ok_iff.mp read
  obtain ⟨protos, readsProtos, read⟩ := bind_eq_ok_iff.mp read
  obtain ⟨fields, readsFields, read⟩ := bind_eq_ok_iff.mp read
  obtain ⟨methods, readsMethods, read⟩ := bind_eq_ok_iff.mp read
  obtain ⟨mapOffset, -, read⟩ := bind_eq_ok_iff.mp read
  dsimp only at readsTypes readsProtos readsFields readsMethods read
  let pools : Container := { empty with version, strings, types, protos, fields, methods }
  have sections :
      ∃ whole,
        whole = pools.withSections whole ∧
          (∀ blob ∈ whole.hiddenApi, HeadedByLength blob) ∧
            (do
              let classes ← readTable image 0x60 32 (classAt image whole)
              return { whole with classes := classes.toList }) = Except.ok container := by
    split at read
    · exact ⟨pools, rfl, by simp [pools, empty], read⟩
    · obtain ⟨count, -, read⟩ := bind_eq_ok_iff.mp read
      obtain ⟨whole, readsSections, read⟩ := bind_eq_ok_iff.mp read
      obtain ⟨keeps, headed⟩ := readSections_spec readsSections (by simp [empty])
      exact ⟨whole, keeps, headed, read⟩
  obtain ⟨whole, keeps, headed, read⟩ := sections
  obtain ⟨classes, readsClasses, read⟩ := bind_eq_ok_iff.mp read
  simp only [pure, Except.pure, Except.ok.injEq] at read
  have eachClass (classDef : ClassDef) (member : classDef ∈ classes) :
      classDef.InRange whole ∧
        ∀ method ∈ classDef.allMethods, ∀ body ∈ method.body, body.Shaped := by
    obtain ⟨offset, readsClass⟩ := exists_of_mem_readTable readsClasses member
    exact classAt_inRange readsClass
  have string (string : PoolString) (member : string ∈ strings) : 0 ∉ string.data := by
    obtain ⟨offset, readsOne⟩ := exists_of_mem_readTable readsStrings member
    obtain ⟨dataOffset, -, readsString⟩ := bind_eq_ok_iff.mp readsOne
    exact stringAt_noZeros readsString
  have type (index : UInt32) (member : index ∈ types) : index.toNat < strings.size := by
    obtain ⟨offset, readsOne⟩ := exists_of_mem_readTable readsTypes member
    obtain ⟨field, -, isChecked⟩ := bind_eq_ok_iff.mp readsOne
    obtain ⟨rfl, inside⟩ := checked_eq_ok_iff.mp isChecked
    exact inside
  have proto (proto : Proto) (member : proto ∈ protos) :
      proto.InRange strings.size types.size := by
    obtain ⟨offset, readsOne⟩ := exists_of_mem_readTable readsProtos member
    exact protoAt_inRange readsOne
  have field (id : FieldId) (member : id ∈ fields) : id.InRange strings.size types.size := by
    obtain ⟨offset, readsOne⟩ := exists_of_mem_readTable readsFields member
    exact fieldAt_inRange readsOne
  have method (id : MethodId) (member : id ∈ methods) :
      id.InRange strings.size types.size protos.size := by
    obtain ⟨offset, readsOne⟩ := exists_of_mem_readTable readsMethods member
    exact methodAt_inRange readsOne
  subst read
  rw [keeps] at eachClass ⊢
  refine ⟨⟨readHeader_isSupported readsVersion, string, ?_⟩, ⟨type, proto, field, method, ?_⟩,
    headed⟩
  · intro classDef member
    exact (eachClass classDef (Array.mem_toList_iff.mp member)).2
  · intro classDef member
    have ranged := (eachClass classDef (Array.mem_toList_iff.mp member)).1
    exact ⟨ranged.type, ranged.superclass, ranged.interfaces, ranged.sourceFile, ranged.members⟩

end Container

end DexPatch
