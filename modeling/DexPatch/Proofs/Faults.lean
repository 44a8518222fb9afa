import Mathlib
import DexPatch.Chain
import DexPatch.Image.Reader

namespace DexPatch

/-!
# Faults behind the header

A reader fails with what one of its links fails with.  Behind the header every
reader fails with the end of the data, with a part that contradicts the format
or with a number out of range, so an error that tells of the format's name, its
version, its byte order or the size of the header comes from the header alone.
-/

/-! ## What a chain fails with -/

/-- Whatever the computation fails with has the property. -/
def FailsWith {ε α : Type} (holds : ε → Prop) (computation : Except ε α) : Prop :=
  ∀ reason, computation = .error reason → holds reason

namespace FailsWith

variable {ε α β : Type} {holds : ε → Prop}

theorem ok (x : α) : FailsWith holds (.ok x : Except ε α) := by
  rintro reason ⟨⟩

theorem error
    {reason : ε}
    (has : holds reason) :
    FailsWith holds (.error reason : Except ε α) := by
  rintro _ ⟨⟩
  exact has

/-- A chain fails with what its first link fails with or what its rest does. -/
theorem bind
    {first : Except ε α}
    {next : α → Except ε β}
    (ofFirst : FailsWith holds first)
    (ofNext : ∀ x, FailsWith holds (next x)) :
    FailsWith holds (first >>= next) := by
  cases first with
  | error reason => exact error (ofFirst reason rfl)
  | ok x => exact ofNext x

theorem map
    {first : Except ε α}
    (change : α → β)
    (ofFirst : FailsWith holds first) :
    FailsWith holds (change <$> first) := by
  cases first with
  | error reason => exact error (ofFirst reason rfl)
  | ok x => exact ok (change x)

theorem mapM
    {item : α → Except ε β}
    (ofItem : ∀ x, FailsWith holds (item x))
    (list : List α) :
    FailsWith holds (list.mapM item) := by
  induction list with
  | nil =>
      rw [List.mapM_nil]
      exact ok []
  | cons x rest inductionHypothesis =>
      rw [List.mapM_cons]
      exact bind (ofItem x) fun _ => bind inductionHypothesis fun _ => ok _

theorem collect
    {holds : DecodeError → Prop}
    {item : Nat → Except DecodeError α}
    (ofItem : ∀ i, FailsWith holds (item i))
    (count : Nat) :
    FailsWith holds (DexPatch.collect count item) := by
  suffices ∀ remaining index collected,
      FailsWith holds (collectFrom item remaining index collected) from this count 0 []
  intro remaining
  induction remaining with
  | zero =>
      exact fun _ _ => ok _
  | succ remaining inductionHypothesis =>
      intro index collected
      rw [collectFrom]
      cases head : item index with
      | error reason => exact error (ofItem index reason head)
      | ok x => exact inductionHypothesis _ _

end FailsWith

/-! ## What a cursor fails with -/

namespace Cursor

variable {α β : Type} {holds : DecodeError → Prop}

/-- Whatever the cursor fails with, wherever it starts, has the property. -/
def FailsWith (holds : DecodeError → Prop) (cursor : Cursor α) : Prop :=
  ∀ position, DexPatch.FailsWith holds (cursor position)

namespace FailsWith

theorem pure (x : α) : FailsWith holds (Pure.pure x) :=
  fun _ => .ok _

theorem bind
    {first : Cursor α}
    {next : α → Cursor β}
    (ofFirst : first.FailsWith holds)
    (ofNext : ∀ x, (next x).FailsWith holds) :
    (first >>= next).FailsWith holds :=
  fun position => .bind (ofFirst position) fun (x, middle) => ofNext x middle

theorem lift
    {check : Except DecodeError α}
    (ofCheck : DexPatch.FailsWith holds check) :
    FailsWith holds (liftM check) :=
  fun _ => .bind ofCheck fun _ => .ok _

theorem get : FailsWith holds (MonadState.get : Cursor Nat) :=
  fun _ => .ok _

theorem times
    {reader : Cursor α}
    (ofReader : reader.FailsWith holds)
    (count : Nat) :
    (Cursor.times count reader).FailsWith holds := by
  suffices ∀ remaining given, (Cursor.timesFrom reader remaining given).FailsWith holds from
    this count []
  intro remaining
  induction remaining with
  | zero =>
      exact fun _ _ => .ok _
  | succ remaining inductionHypothesis =>
      intro given position
      rw [Cursor.timesFrom]
      dsimp only
      cases head : reader position with
      | error reason => exact .error (ofReader position reason head)
      | ok item => exact inductionHypothesis _ _

theorem ascending
    {number : α → UInt32}
    {reader : UInt32 → Cursor α}
    (ofReader : ∀ previous, (reader previous).FailsWith holds)
    (count : Nat) :
    (Cursor.ascending number count reader).FailsWith holds := by
  suffices ∀ remaining previous given,
      (Cursor.ascendingFrom number reader remaining previous given).FailsWith holds from
    this count 0 []
  intro remaining
  induction remaining with
  | zero =>
      exact fun _ _ _ => .ok _
  | succ remaining inductionHypothesis =>
      intro previous given position
      rw [Cursor.ascendingFrom]
      dsimp only
      cases head : reader previous position with
      | error reason => exact .error (ofReader previous position reason head)
      | ok item => exact inductionHypothesis _ _ _

theorem readAt
    {cursor : Cursor α}
    (ofCursor : cursor.FailsWith holds)
    (offset : Nat) :
    DexPatch.FailsWith holds (cursor.readAt offset) := by
  rw [Cursor.readAt]
  cases head : cursor offset with
  | error reason => exact .error (ofCursor offset reason head)
  | ok item => exact .ok _

end FailsWith

end Cursor

/-! ## Behind the header -/

/-- The error tells of something other than the header. -/
def DecodeError.IsBehindHeader : DecodeError → Prop
  | .badMagic => False
  | .unsupportedVersion _ => False
  | .badEndianTag _ => False
  | .unexpectedEnd _ => True
  | .malformed part _ => part ≠ .headerSize
  | .indexOutOfRange _ _ => True

/-- The computation fails with nothing that tells of the header. -/
abbrev FailsBehind {α : Type} (reading : Except DecodeError α) : Prop :=
  FailsWith DecodeError.IsBehindHeader reading

/-- The cursor fails with nothing that tells of the header. -/
abbrev Cursor.FailsBehind {α : Type} (cursor : Cursor α) : Prop :=
  cursor.FailsWith DecodeError.IsBehindHeader

section Fields

variable (data : Bytes) (offset : Nat)

theorem bytesAt_failsBehind (length : Nat) : FailsBehind (bytesAt data offset length) := by
  rw [bytesAt]
  split
  · exact .ok _
  · exact .error trivial

theorem numberAt_failsBehind (width : Nat) : FailsBehind (numberAt data offset width) := by
  rw [numberAt]
  split
  · exact .ok _
  · next fails => exact .error (bytesAt_failsBehind data offset width _ fails)

theorem u8At_failsBehind : FailsBehind (u8At data offset) := by
  rw [u8At]
  split
  · exact .ok _
  · exact .error trivial

theorem u16At_failsBehind : FailsBehind (u16At data offset) :=
  .bind (numberAt_failsBehind data offset 2) fun _ => .ok _

theorem u32At_failsBehind : FailsBehind (u32At data offset) :=
  .bind (numberAt_failsBehind data offset 4) fun _ => .ok _

theorem natAt_failsBehind : FailsBehind (natAt data offset) :=
  .bind (u32At_failsBehind data offset) fun _ => .ok _

theorem checked_failsBehind
    (pool : Pool)
    (size : Nat)
    (index : UInt32) :
    FailsBehind (checked pool size index) := by
  rw [checked]
  split
  · exact .ok _
  · exact .error trivial

end Fields

namespace Cursor

variable (data : Bytes)

theorem byte_failsBehind : (byte data).FailsBehind := by
  intro position
  rw [byte]
  split
  · exact .ok _
  · next fails => exact .error (u8At_failsBehind data position _ fails)

theorem number_failsBehind (width : Nat) : (number data width).FailsBehind := by
  intro position
  rw [number]
  split
  · exact .ok _
  · next fails => exact .error (numberAt_failsBehind data position width _ fails)

theorem unsigned_failsBehind : (unsigned data).FailsBehind := by
  intro position
  rw [unsigned, Leb128.readUnsigned]
  split
  · exact .ok _
  · exact .error trivial
  · exact .error (show Part.unsignedNumber ≠ .headerSize by decide)

theorem signed_failsBehind : (signed data).FailsBehind := by
  intro position
  rw [signed, Leb128.readSigned]
  split
  · exact .ok _
  · exact .error trivial
  · exact .error (show Part.signedNumber ≠ .headerSize by decide)

theorem optional_failsBehind : (optional data).FailsBehind := by
  intro position
  rw [optional, Leb128.readOptional]
  split
  · exact .ok _
  · next fails => exact .error (unsigned_failsBehind data position _ fails)

end Cursor

/-! ### Values and annotations -/

section Values

variable (data : Bytes)

open Cursor Cursor.FailsWith

theorem valueIndex_failsBehind (start n : Nat) : FailsBehind (valueIndex start n) := by
  rw [valueIndex]
  split
  · exact .ok _
  · exact .error (show Part.valueIndex ≠ .headerSize by decide)

theorem valueWithin_failsBehind (depth : Nat) : (valueWithin data depth).FailsBehind := by
  induction depth with
  | zero =>
      exact fun _ => .error trivial
  | succ depth inductionHypothesis =>
      rw [valueWithin]
      refine get.bind fun start => (byte_failsBehind data).bind fun header => ?_
      dsimp only
      split
      · exact (unsigned_failsBehind data).bind fun _ =>
          (inductionHypothesis.times _).bind fun _ => .pure _
      · split
        · refine (unsigned_failsBehind data).bind fun _ => (unsigned_failsBehind data).bind fun _ =>
            (FailsWith.times ?_ _).bind fun _ => .pure _
          exact (unsigned_failsBehind data).bind fun _ => inductionHypothesis.bind fun _ => .pure _
        · split
          · exact .pure _
          · split
            · exact .pure _
            · split
              · exact (number_failsBehind data _).bind fun _ => .pure _
              · exact (number_failsBehind data _).bind fun _ =>
                  (lift (valueIndex_failsBehind _ _)).bind fun _ => .pure _
              · exact fun _ => .error (show Part.valueType ≠ .headerSize by decide)

theorem readValue_failsBehind : (readValue data).FailsBehind :=
  fun position => valueWithin_failsBehind data _ position

theorem readValues_failsBehind : (readValues data).FailsBehind :=
  (unsigned_failsBehind data).bind fun _ => (readValue_failsBehind data).times _

theorem readAnnotated_failsBehind : (readAnnotated data).FailsBehind := by
  refine (unsigned_failsBehind data).bind fun _ => (unsigned_failsBehind data).bind fun _ =>
    (FailsWith.times ?_ _).bind fun _ => .pure _
  exact (unsigned_failsBehind data).bind fun _ => (readValue_failsBehind data).bind fun _ => .pure _

theorem annotationSetAt_failsBehind (offset : Nat) : FailsBehind (annotationSetAt data offset) := by
  refine .bind (natAt_failsBehind data offset) fun _ => .collect (fun i => ?_) _
  exact .bind (natAt_failsBehind data _) fun item => .bind (u8At_failsBehind data item) fun _ =>
    .bind ((readAnnotated_failsBehind data).readAt _) fun _ => .ok _

theorem refListAt_failsBehind (offset : Nat) : FailsBehind (refListAt data offset) := by
  refine .bind (natAt_failsBehind data offset) fun _ => .collect (fun i => ?_) _
  refine .bind (natAt_failsBehind data _) fun set => ?_
  split
  · exact .ok _
  · exact .bind (annotationSetAt_failsBehind data set) fun _ => .ok _

theorem memberOffsetsAt_failsBehind (offset count : Nat) :
    FailsBehind (memberOffsetsAt data offset count) :=
  .collect (fun _ => .bind (u32At_failsBehind data _) fun _ =>
    .bind (natAt_failsBehind data _) fun _ => .ok _) _

theorem directoryAt_failsBehind (offset : Nat) : FailsBehind (directoryAt data offset) := by
  have withSet (entry : UInt32 × Nat) :
      FailsBehind (do return (entry.1, ← annotationSetAt data entry.2)) :=
    .bind (annotationSetAt_failsBehind data _) fun _ => .ok _
  refine .bind (natAt_failsBehind data _) fun ofClass => .bind (natAt_failsBehind data _) fun _ =>
    .bind (natAt_failsBehind data _) fun _ => .bind (natAt_failsBehind data _) fun _ =>
      .bind (memberOffsetsAt_failsBehind data _ _) fun _ =>
        .bind (memberOffsetsAt_failsBehind data _ _) fun _ =>
          .bind (memberOffsetsAt_failsBehind data _ _) fun _ => ?_
  simp only [ite_bind]
  refine .bind ?_ fun _ => .bind (.mapM withSet _) fun _ => .bind (.mapM withSet _) fun _ =>
    .bind (.mapM (fun _ => .bind (refListAt_failsBehind data _) fun _ => .ok _) _) fun _ => .ok _
  split
  · exact .ok _
  · exact .map _ (annotationSetAt_failsBehind data ofClass)

end Values

/-! ### Bodies -/

section Bodies

variable (data : Bytes)

open Cursor Cursor.FailsWith

theorem readDebugOp_failsBehind (opcode : UInt8) : (readDebugOp data opcode).FailsBehind := by
  have plain := unsigned_failsBehind data
  have optional := optional_failsBehind data
  unfold readDebugOp
  split
  · exact plain.bind fun _ => .pure _
  · exact (signed_failsBehind data).bind fun _ => .pure _
  · exact plain.bind fun _ => optional.bind fun _ => optional.bind fun _ => .pure _
  · exact plain.bind fun _ => optional.bind fun _ => optional.bind fun _ =>
      optional.bind fun _ => .pure _
  · exact plain.bind fun _ => .pure _
  · exact plain.bind fun _ => .pure _
  · exact .pure _
  · exact .pure _
  · exact optional.bind fun _ => .pure _
  · exact .pure _

theorem debugOpsWithin_failsBehind
    (budget : Nat)
    (done : List DebugOp) :
    (debugOpsWithin data budget done).FailsBehind := by
  induction budget generalizing done with
  | zero =>
      exact fun _ => .error trivial
  | succ budget inductionHypothesis =>
      rw [debugOpsWithin]
      refine (byte_failsBehind data).bind fun opcode => ?_
      split
      · exact .pure _
      · exact (readDebugOp_failsBehind data opcode).bind fun _ => inductionHypothesis _

theorem readDebugInfo_failsBehind : (readDebugInfo data).FailsBehind :=
  (unsigned_failsBehind data).bind fun _ => (unsigned_failsBehind data).bind fun _ =>
    ((optional_failsBehind data).times _).bind fun _ =>
      bind (fun position => debugOpsWithin_failsBehind data _ _ position) fun _ => .pure _

theorem readHandler_failsBehind : (readHandler data).FailsBehind := by
  have oneCatch : (readCatch data).FailsBehind :=
    (unsigned_failsBehind data).bind fun _ => (unsigned_failsBehind data).bind fun _ => .pure _
  refine (signed_failsBehind data).bind fun count => (oneCatch.times _).bind fun _ => ?_
  split
  · exact (unsigned_failsBehind data).bind fun _ => .pure _
  · exact .pure _

theorem readHandlers_failsBehind : (readHandlers data).FailsBehind :=
  (unsigned_failsBehind data).bind fun _ =>
    times (get.bind fun _ => (readHandler_failsBehind data).bind fun _ => .pure _) _

theorem tryAt_failsBehind
    (handlerOffsets : List Nat)
    (offset : Nat) :
    FailsBehind (tryAt data handlerOffsets offset) := by
  refine .bind (u16At_failsBehind data _) fun handlerOffset => ?_
  split
  · exact .error (show Part.tryHandlerOffset ≠ .headerSize by decide)
  · exact .bind (u32At_failsBehind data _) fun _ => .bind (u16At_failsBehind data _) fun _ => .ok _

theorem triesAt_failsBehind (offset count : Nat) : FailsBehind (triesAt data offset count) :=
  .bind ((readHandlers_failsBehind data).readAt _) fun _ =>
    .bind (.collect (fun _ => tryAt_failsBehind data _ _) _) fun _ => .ok _

theorem bodyAt_failsBehind (offset : Nat) : FailsBehind (bodyAt data offset) := by
  refine .bind (u16At_failsBehind data _) fun _ => .bind (u16At_failsBehind data _) fun _ =>
    .bind (u16At_failsBehind data _) fun _ => .bind (u16At_failsBehind data _) fun _ =>
      .bind (natAt_failsBehind data _) fun debugAt => .bind (natAt_failsBehind data _) fun _ =>
        .bind (bytesAt_failsBehind data _ _) fun _ => ?_
  simp only [ite_bind]
  refine .bind ?_ fun _ => .bind ?_ fun _ => .ok _
  · split
    · exact .ok _
    · exact triesAt_failsBehind data _ _
  · split
    · exact .ok _
    · exact .map _ ((readDebugInfo_failsBehind data).readAt _)

end Bodies

/-! ### Pools and classes -/

section Pools

variable (data : Bytes) (container : Container)

open Cursor Cursor.FailsWith

theorem stringAt_failsBehind (offset : Nat) : FailsBehind (stringAt data offset) := by
  refine .bind (unsigned_failsBehind data offset) fun (_, start) => ?_
  dsimp only
  split
  · exact .error (show Part.stringData ≠ .headerSize by decide)
  · exact .ok _

theorem typeListAt_failsBehind (types offset : Nat) :
    FailsBehind (typeListAt data types offset) := by
  rw [typeListAt]
  split
  · exact .ok _
  · exact .bind (natAt_failsBehind data _) fun _ =>
      .collect (fun _ => .bind (u16At_failsBehind data _) fun _ => checked_failsBehind _ _ _) _

theorem readTable_failsBehind
    {α : Type}
    {entry : Nat → Except DecodeError α}
    (ofEntry : ∀ offset, FailsBehind (entry offset))
    (position entrySize : Nat) :
    FailsBehind (readTable data position entrySize entry) :=
  .bind (.bind (natAt_failsBehind data _) fun _ => .bind (natAt_failsBehind data _) fun _ => .ok _)
    fun _ => .bind (.collect (fun _ => ofEntry _) _) fun _ => .ok _

theorem protoAt_failsBehind (offset : Nat) : FailsBehind (protoAt data container offset) :=
  .bind (u32At_failsBehind data _) fun _ => .bind (checked_failsBehind _ _ _) fun _ =>
    .bind (u32At_failsBehind data _) fun _ => .bind (checked_failsBehind _ _ _) fun _ =>
      .bind (natAt_failsBehind data _) fun _ => .bind (typeListAt_failsBehind data _ _) fun _ =>
        .ok _

theorem fieldAt_failsBehind (offset : Nat) : FailsBehind (fieldAt data container offset) :=
  .bind (u16At_failsBehind data _) fun _ => .bind (checked_failsBehind _ _ _) fun _ =>
    .bind (u16At_failsBehind data _) fun _ => .bind (checked_failsBehind _ _ _) fun _ =>
      .bind (u32At_failsBehind data _) fun _ => .bind (checked_failsBehind _ _ _) fun _ => .ok _

theorem methodAt_failsBehind (offset : Nat) : FailsBehind (methodAt data container offset) :=
  .bind (u16At_failsBehind data _) fun _ => .bind (checked_failsBehind _ _ _) fun _ =>
    .bind (u16At_failsBehind data _) fun _ => .bind (checked_failsBehind _ _ _) fun _ =>
      .bind (u32At_failsBehind data _) fun _ => .bind (checked_failsBehind _ _ _) fun _ => .ok _

theorem readSection_failsBehind (offset : Nat) :
    FailsBehind (readSection data container offset) := by
  refine .bind (u16At_failsBehind data _) fun _ => .bind (natAt_failsBehind data _) fun _ =>
    .bind (natAt_failsBehind data _) fun _ => ?_
  split
  · refine .bind (.collect (fun _ => ?_) _) fun _ => .ok _
    exact .bind (natAt_failsBehind data _) fun _ => (readValues_failsBehind data).readAt _
  · split
    · refine .bind (.collect (fun _ => ?_) _) fun _ => .ok _
      exact .bind (u16At_failsBehind data _) fun _ => .bind (u16At_failsBehind data _) fun _ =>
        .ok _
    · split
      · exact .bind (natAt_failsBehind data _) fun _ =>
          .bind (bytesAt_failsBehind data _ _) fun _ => .ok _
      · exact .ok _

theorem readSections_failsBehind (remaining offset : Nat) :
    FailsBehind (readSections data remaining offset container) := by
  induction remaining generalizing offset container with
  | zero =>
      exact .ok _
  | succ remaining inductionHypothesis =>
      rw [readSections_succ]
      exact .bind (readSection_failsBehind data container offset) fun next =>
        inductionHypothesis next (offset + 12)

theorem readMemberField_failsBehind (fields : Nat) (previous : UInt32) :
    (readMemberField data fields previous).FailsBehind :=
  (unsigned_failsBehind data).bind fun _ => (lift (checked_failsBehind _ _ _)).bind fun _ =>
    (unsigned_failsBehind data).bind fun _ => .pure _

theorem readMemberMethod_failsBehind (methods : Nat) (previous : UInt32) :
    (readMemberMethod data methods previous).FailsBehind := by
  refine (unsigned_failsBehind data).bind fun _ => (unsigned_failsBehind data).bind fun _ =>
    (unsigned_failsBehind data).bind fun bodyOffset =>
      (lift (checked_failsBehind _ _ _)).bind fun _ => ?_
  split
  · exact .pure _
  · exact (lift (bodyAt_failsBehind data _)).bind fun _ => .pure _

theorem readClassData_failsBehind : (readClassData data container).FailsBehind := by
  have plain := unsigned_failsBehind data
  have fields (count : UInt32) :
      (Cursor.ascending MemberField.field count.toNat
        (readMemberField data container.fields.size)).FailsBehind :=
    .ascending (readMemberField_failsBehind data container.fields.size) count.toNat
  have methods (count : UInt32) :
      (Cursor.ascending MemberMethod.method count.toNat
        (readMemberMethod data container.methods.size)).FailsBehind :=
    .ascending (readMemberMethod_failsBehind data container.methods.size) count.toNat
  exact plain.bind fun _ => plain.bind fun _ => plain.bind fun _ => plain.bind fun _ =>
    (fields _).bind fun _ => (fields _).bind fun _ => (methods _).bind fun _ =>
      (methods _).bind fun _ => .pure _

theorem optionalAt_failsBehind (pool : Pool) (size offset : Nat) :
    FailsBehind (optionalAt data pool size offset) := by
  refine .bind (u32At_failsBehind data _) fun _ => ?_
  split
  · exact .ok _
  · exact .bind (checked_failsBehind _ _ _) fun _ => .ok _

theorem atOffset_failsBehind
    {α : Type}
    {reader : Nat → Except DecodeError α}
    (ofReader : ∀ offset, FailsBehind (reader offset))
    (offset : Nat) :
    FailsBehind (atOffset offset reader) := by
  rw [atOffset]
  split
  · exact .ok _
  · exact .map _ (ofReader offset)

theorem classAt_failsBehind (offset : Nat) : FailsBehind (classAt data container offset) :=
  .bind (optionalAt_failsBehind data _ _ _) fun _ =>
    .bind (optionalAt_failsBehind data _ _ _) fun _ => .bind (natAt_failsBehind data _) fun _ =>
      .bind (natAt_failsBehind data _) fun _ => .bind (natAt_failsBehind data _) fun _ =>
        .bind (u32At_failsBehind data _) fun _ => .bind (checked_failsBehind _ _ _) fun _ =>
          .bind (u32At_failsBehind data _) fun _ => .bind (natAt_failsBehind data _) fun _ =>
            .bind (typeListAt_failsBehind data _ _) fun _ =>
              .bind (atOffset_failsBehind (directoryAt_failsBehind data) _) fun _ =>
                .bind (atOffset_failsBehind (readClassData_failsBehind data container).readAt _)
                  fun _ =>
                    .bind (atOffset_failsBehind (readValues_failsBehind data).readAt _) fun _ =>
                      .ok _

end Pools

namespace Container

/-- An error that tells of the header comes from the header. -/
theorem readHeader_of_decode_error
    {data : Bytes}
    {reason : DecodeError}
    (fails : decode data = .error reason)
    (ofHeader : ¬ reason.IsBehindHeader) :
    readHeader data = .error reason := by
  cases header : readHeader data with
  | error other =>
      have told : decode data = .error other := by
        rw [decode, header]
        rfl
      rw [Except.error.inj (told.symm.trans fails)]
  | ok version =>
      have behind : FailsBehind (decode data) := by
        rw [decode, header]
        refine .bind (.ok version) fun _ =>
          .bind (readTable_failsBehind data (fun _ => ?_) _ _) fun _ =>
          .bind (readTable_failsBehind data (fun _ => ?_) _ _) fun _ =>
            .bind (readTable_failsBehind data (protoAt_failsBehind data _) _ _) fun _ =>
              .bind (readTable_failsBehind data (fieldAt_failsBehind data _) _ _) fun _ =>
                .bind (readTable_failsBehind data (methodAt_failsBehind data _) _ _) fun _ =>
                  .bind (natAt_failsBehind data _) fun mapOffset => ?_
        · exact .bind (natAt_failsBehind data _) fun _ => stringAt_failsBehind data _
        · exact .bind (u32At_failsBehind data _) fun _ => checked_failsBehind _ _ _
        · have classes (container : Container) :
              FailsBehind (do
                let classes ← readTable data 0x60 32 (classAt data container)
                return { container with classes := classes.toList }) :=
            .bind (readTable_failsBehind data (classAt_failsBehind data container) _ _) fun _ =>
              .ok _
          dsimp only
          split
          · exact classes _
          · exact .bind (natAt_failsBehind data _) fun _ =>
              .bind (readSections_failsBehind data _ _ _) fun _ => classes _
      exact absurd (behind reason fails) ofHeader

end Container

end DexPatch
