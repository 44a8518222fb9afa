import DexPatch.Proofs.StaticValues
import DexPatch.Proofs.Truncated

namespace DexPatch

/-!
# Data behind an image

Whatever is read of some data is read of every data that starts with it.  A
reader of the longer data gives all that the same reader gives of the shorter,
and this is carried from the parts of a chain or a repetition to the whole.
Some bounds are taken from the number of bytes that are left: how deep values
nest, how many debug steps there are, how far a zero byte is looked for.  They
only grow with the data, and a reader that has ended within a bound ends in the
same way within any larger one.
-/

/-- Whatever the first computation gives, the second gives too. -/
def CarriedBy
    {ε α : Type}
    (first second : Except ε α) : Prop :=
  ∀ ⦃x : α⦄, first = .ok x → second = .ok x

namespace CarriedBy

variable {ε α β : Type}

theorem refl (first : Except ε α) : CarriedBy first first :=
  fun _ gives => gives

/-- A failure gives nothing. -/
theorem error
    (reason : ε)
    (second : Except ε α) :
    CarriedBy (.error reason) second := by
  intro x gives
  cases gives

/-- A chain is carried by one with the same links or links that give more. -/
theorem bind
    {first second : Except ε α}
    {firstNext secondNext : α → Except ε β}
    (carried : CarriedBy first second)
    (next : ∀ x, CarriedBy (firstNext x) (secondNext x)) :
    CarriedBy (first >>= firstNext) (second >>= secondNext) := by
  intro y gives
  obtain ⟨x, succeeds, followed⟩ := bind_eq_ok_iff.mp gives
  exact bind_eq_ok_iff.mpr ⟨x, carried succeeds, next x followed⟩

/-- Results are changed in the same way. -/
theorem map
    {first second : Except ε α}
    (change : α → β)
    (carried : CarriedBy first second) :
    CarriedBy (change <$> first) (change <$> second) := by
  intro y gives
  obtain ⟨x, succeeds, changed⟩ := map_eq_ok_iff.mp gives
  exact map_eq_ok_iff.mpr ⟨x, carried succeeds, changed⟩

theorem ite
    {p : Prop}
    [Decidable p]
    {first second firstElse secondElse : Except ε α}
    (carried : p → CarriedBy first second)
    (carriedElse : ¬ p → CarriedBy firstElse secondElse) :
    CarriedBy (if p then first else firstElse) (if p then second else secondElse) := by
  split
  · next holds => exact carried holds
  · next fails => exact carriedElse fails

/-- A choice between two chains that go on in the same way. -/
theorem iteThen
    {p : Prop}
    [Decidable p]
    {first second firstElse secondElse : Except ε α}
    {firstNext secondNext : α → Except ε β}
    (carried : p → CarriedBy first second)
    (carriedElse : ¬ p → CarriedBy firstElse secondElse)
    (next : ∀ x, CarriedBy (firstNext x) (secondNext x)) :
    CarriedBy (if p then first >>= firstNext else firstElse >>= firstNext)
      (if p then second >>= secondNext else secondElse >>= secondNext) :=
  ite (fun holds => bind (carried holds) next) fun fails => bind (carriedElse fails) next

/-- The elements of a list lead to the same results. -/
theorem mapM
    {first second : α → Except ε β}
    (each : ∀ x, CarriedBy (first x) (second x))
    (list : List α) :
    CarriedBy (list.mapM first) (list.mapM second) := by
  induction list with
  | nil =>
      exact refl _
  | cons x rest inductionHypothesis =>
      rw [List.mapM_cons, List.mapM_cons]
      exact bind (each x) fun _ => bind inductionHypothesis fun _ => refl _

/-- Collecting finds the same result for each index. -/
theorem collect
    {first second : Nat → Except DecodeError α}
    (each : ∀ i, CarriedBy (first i) (second i))
    (count : Nat) :
    CarriedBy (collect count first) (DexPatch.collect count second) := by
  intro list gives
  obtain ⟨length, items⟩ := collect_eq_ok_iff.mp gives
  exact collect_eq_ok_iff.mpr ⟨length, fun i inside => each i (items i inside)⟩

end CarriedBy

namespace Cursor

variable {α β : Type}

/-- Wherever the two cursors start, the second gives what the first gives and leaves off at the
same position. -/
def CarriedBy (first second : Cursor α) : Prop :=
  ∀ position, DexPatch.CarriedBy (first position) (second position)

namespace CarriedBy

theorem refl (first : Cursor α) : first.CarriedBy first :=
  fun _ => .refl _

theorem bind
    {first second : Cursor α}
    {firstNext secondNext : α → Cursor β}
    (carried : first.CarriedBy second)
    (next : ∀ x, (firstNext x).CarriedBy (secondNext x)) :
    Cursor.CarriedBy (first >>= firstNext) (second >>= secondNext) := by
  rintro position ⟨y, stop⟩ gives
  obtain ⟨x, middle, succeeds, followed⟩ := bind_eq_ok_iff.mp gives
  exact bind_eq_ok_iff.mpr ⟨x, middle, carried position succeeds, next x middle followed⟩

theorem lift
    {first second : Except DecodeError α}
    (carried : DexPatch.CarriedBy first second) :
    Cursor.CarriedBy (liftM first) (liftM second) := by
  rintro position ⟨x, stop⟩ gives
  obtain ⟨succeeds, same⟩ := lift_eq_ok_iff.mp gives
  exact lift_eq_ok_iff.mpr ⟨carried succeeds, same⟩

theorem ite
    {p : Prop}
    [Decidable p]
    {first second firstElse secondElse : Cursor α}
    (carried : p → first.CarriedBy second)
    (carriedElse : ¬ p → firstElse.CarriedBy secondElse) :
    Cursor.CarriedBy (if p then first else firstElse) (if p then second else secondElse) := by
  split
  · next holds => exact carried holds
  · next fails => exact carriedElse fails

/-- A repeated reader gives the same values one behind the other. -/
theorem times
    {first second : Cursor α}
    (carried : first.CarriedBy second)
    (count : Nat) :
    (Cursor.times count first).CarriedBy (Cursor.times count second) := by
  have behind (remaining : Nat) (given : List α) :
      (timesFrom first remaining given).CarriedBy (timesFrom second remaining given) := by
    induction remaining generalizing given with
    | zero =>
        exact refl _
    | succ remaining inductionHypothesis =>
        intro position result gives
        rw [timesFrom] at gives ⊢
        cases head : first position with
        | error error =>
            simp [head] at gives
        | ok item =>
            simp only [head] at gives
            simp only [carried position head]
            exact inductionHypothesis _ _ gives
  exact behind count []

/-- Items that each start from the number before give the same numbers. -/
theorem ascending
    (number : α → UInt32)
    {first second : UInt32 → Cursor α}
    (carried : ∀ previous, (first previous).CarriedBy (second previous))
    (count : Nat) :
    (Cursor.ascending number count first).CarriedBy (Cursor.ascending number count second) := by
  have behind (remaining : Nat) (previous : UInt32) (given : List α) :
      (ascendingFrom number first remaining previous given).CarriedBy
        (ascendingFrom number second remaining previous given) := by
    induction remaining generalizing previous given with
    | zero =>
        exact refl _
    | succ remaining inductionHypothesis =>
        intro position result gives
        rw [ascendingFrom] at gives ⊢
        cases head : first previous position with
        | error error =>
            simp [head] at gives
        | ok item =>
            simp only [head] at gives
            simp only [carried previous position head]
            exact inductionHypothesis _ _ _ gives
  exact behind count 0 []

theorem readAt
    {first second : Cursor α}
    (carried : first.CarriedBy second)
    (offset : Nat) :
    DexPatch.CarriedBy (first.readAt offset) (second.readAt offset) := by
  intro x gives
  obtain ⟨stop, reads⟩ := readAt_eq_ok_iff.mp gives
  exact readAt_of_ok (carried offset reads)

end CarriedBy

end Cursor

section More

variable (data more : Bytes)

/-! ## Fields and numbers -/

theorem bytesAt_append (offset length : Nat) :
    CarriedBy (bytesAt data offset length) (bytesAt (data ++ more) offset length) := by
  intro bytes read
  obtain ⟨rfl, held⟩ := holds_of_bytesAt read
  exact bytesAt_of_holds (held.append_data more)

theorem numberAt_append (offset width : Nat) :
    CarriedBy (numberAt data offset width) (numberAt (data ++ more) offset width) := by
  intro n read
  unfold numberAt at read ⊢
  split at read
  · next bytes readsBytes =>
      rw [bytesAt_append data more offset width readsBytes]
      exact read
  · cases read

/-- Bytes of the data stay where they are. -/
theorem getElem?_append_of_some
    {offset : Nat}
    {byte : UInt8}
    (found : data[offset]? = some byte) :
    (data ++ more)[offset]? = some byte := by
  rw [Array.getElem?_append_left (Array.getElem?_eq_some_iff.mp found).1, found]

theorem u8At_append (offset : Nat) :
    CarriedBy (u8At data offset) (u8At (data ++ more) offset) := by
  intro byte read
  unfold u8At at read ⊢
  split at read
  · next found =>
      rw [getElem?_append_of_some data more found]
      exact read
  · cases read

theorem u16At_append (offset : Nat) :
    CarriedBy (u16At data offset) (u16At (data ++ more) offset) :=
  .bind (numberAt_append data more offset 2) fun _ => .refl _

theorem u32At_append (offset : Nat) :
    CarriedBy (u32At data offset) (u32At (data ++ more) offset) :=
  .bind (numberAt_append data more offset 4) fun _ => .refl _

theorem natAt_append (offset : Nat) :
    CarriedBy (natAt data offset) (natAt (data ++ more) offset) :=
  .bind (u32At_append data more offset) fun _ => .refl _

/-- The digits of a number end where they end, whatever follows. -/
theorem Leb128.scan_append
    {budget position stop : Nat}
    {payload : List Nat}
    (ends : scan data budget position = .digits payload stop) :
    scan (data ++ more) budget position = .digits payload stop := by
  induction budget generalizing position stop payload with
  | zero =>
      cases ends
  | succ budget inductionHypothesis =>
      rw [scan] at ends ⊢
      cases found : data[position]? with
      | none =>
          simp [found] at ends
      | some byte =>
          simp only [found] at ends
          simp only [getElem?_append_of_some data more found]
          split at ends
          · next last =>
              rw [if_pos last]
              exact ends
          · next continues =>
              rw [if_neg continues]
              cases rest : scan data budget (position + 1) with
              | digits digits last =>
                  rw [rest] at ends
                  rw [inductionHypothesis rest]
                  exact ends
              | truncated last | overlong last =>
                  rw [rest] at ends
                  cases ends

namespace Cursor

theorem byte_append : (byte data).CarriedBy (byte (data ++ more)) := by
  intro position result read
  unfold byte at read ⊢
  split at read
  · next readsByte =>
      rw [u8At_append data more position readsByte]
      exact read
  · cases read

theorem number_append (width : Nat) : (number data width).CarriedBy (number (data ++ more) width) := by
  intro position result read
  unfold number at read ⊢
  split at read
  · next readsNumber =>
      rw [numberAt_append data more position width readsNumber]
      exact read
  · cases read

theorem unsigned_append : (unsigned data).CarriedBy (unsigned (data ++ more)) := by
  intro position result read
  unfold unsigned Leb128.readUnsigned at read ⊢
  split at read
  · next ends =>
      rw [Leb128.scan_append data more ends]
      exact read
  · cases read
  · cases read

theorem signed_append : (signed data).CarriedBy (signed (data ++ more)) := by
  intro position result read
  unfold signed Leb128.readSigned at read ⊢
  split at read
  · next ends =>
      rw [Leb128.scan_append data more ends]
      exact read
  · cases read
  · cases read

theorem optional_append : (optional data).CarriedBy (optional (data ++ more)) := by
  intro position result read
  unfold optional Leb128.readOptional at read ⊢
  split at read
  · next readsNumber =>
      have same := unsigned_append data more position readsNumber
      unfold unsigned at same
      rw [same]
      exact read
  · cases read

end Cursor

/-! ## Values and annotations -/

/-- A value that is read within a bound is read within any larger one. -/
theorem valueWithin_append
    {depth deeper : Nat}
    (enough : depth ≤ deeper) :
    (valueWithin data depth).CarriedBy (valueWithin (data ++ more) deeper) := by
  induction depth generalizing deeper with
  | zero =>
      exact fun _ => .error _ _
  | succ depth inductionHypothesis =>
      obtain ⟨deeper, rfl⟩ :=
        Nat.exists_eq_add_one_of_ne_zero (Nat.ne_zero_of_lt (Nat.lt_of_succ_le enough))
      have inner := inductionHypothesis (Nat.le_of_succ_le_succ enough)
      have number (width : Nat) := Cursor.number_append data more width
      have unsigned := Cursor.unsigned_append data more
      refine .bind (.refl _) fun start => .bind (Cursor.byte_append data more) fun header => ?_
      refine .ite (fun _ => ?_) fun _ => .ite (fun _ => ?_) fun _ => .ite (fun _ => .refl _) fun _ =>
        .ite (fun _ => .refl _) fun _ => ?_
      · exact .bind unsigned fun _ => .bind (inner.times _) fun _ => .refl _
      · refine .bind unsigned fun _ => .bind unsigned fun _ => .bind (.times ?_ _) fun _ => .refl _
        exact .bind unsigned fun _ => .bind inner fun _ => .refl _
      · split
        · exact .bind (number _) fun _ => .refl _
        · exact .bind (number _) fun _ => .refl _
        · exact .refl _

theorem readValue_append : (readValue data).CarriedBy (readValue (data ++ more)) := by
  intro position
  have grows : data.size - position ≤ (data ++ more).size - position := by
    rw [Array.size_append]
    omega
  exact valueWithin_append data more grows position

theorem readValues_append : (readValues data).CarriedBy (readValues (data ++ more)) :=
  .bind (Cursor.unsigned_append data more) fun _ => (readValue_append data more).times _

theorem readAnnotated_append : (readAnnotated data).CarriedBy (readAnnotated (data ++ more)) := by
  have unsigned := Cursor.unsigned_append data more
  refine .bind unsigned fun _ => .bind unsigned fun _ => .bind (.times ?_ _) fun _ => .refl _
  exact .bind unsigned fun _ => .bind (readValue_append data more) fun _ => .refl _

theorem annotationSetAt_append (offset : Nat) :
    CarriedBy (annotationSetAt data offset) (annotationSetAt (data ++ more) offset) := by
  refine .bind (natAt_append data more _) fun _ => .collect (fun _ => ?_) _
  exact .bind (natAt_append data more _) fun _ => .bind (u8At_append data more _) fun _ =>
    .bind ((readAnnotated_append data more).readAt _) fun _ => .refl _

theorem refListAt_append (offset : Nat) :
    CarriedBy (refListAt data offset) (refListAt (data ++ more) offset) := by
  refine .bind (natAt_append data more _) fun _ => .collect (fun _ => ?_) _
  refine .bind (natAt_append data more _) fun _ => .ite (fun _ => .refl _) fun _ => ?_
  exact .bind (annotationSetAt_append data more _) fun _ => .refl _

theorem memberOffsetsAt_append (offset count : Nat) :
    CarriedBy (memberOffsetsAt data offset count) (memberOffsetsAt (data ++ more) offset count) :=
  .collect (fun _ => .bind (u32At_append data more _) fun _ =>
    .bind (natAt_append data more _) fun _ => .refl _) _

theorem directoryAt_append (offset : Nat) :
    CarriedBy (directoryAt data offset) (directoryAt (data ++ more) offset) := by
  have number (offset : Nat) := natAt_append data more offset
  have offsets (offset count : Nat) := memberOffsetsAt_append data more offset count
  have withSet (entry : UInt32 × Nat) :
      CarriedBy
        (do return (entry.1, ← annotationSetAt data entry.2))
        (do return (entry.1, ← annotationSetAt (data ++ more) entry.2)) :=
    .bind (annotationSetAt_append data more entry.2) fun _ => .refl _
  refine .bind (number _) fun _ => .bind (number _) fun _ => .bind (number _) fun _ =>
    .bind (number _) fun _ => .bind (offsets _ _) fun _ => .bind (offsets _ _) fun _ =>
    .bind (offsets _ _) fun _ => ?_
  refine .iteThen (fun _ => .refl _) (fun _ => .map _ (annotationSetAt_append data more _))
    fun _ => .bind (.mapM withSet _) fun _ => .bind (.mapM withSet _) fun _ =>
    .bind (.mapM (fun entry => ?_) _) fun _ => .refl _
  exact .bind (refListAt_append data more _) fun _ => .refl _

/-! ## Bodies -/

theorem readDebugOp_append (opcode : UInt8) :
    (readDebugOp data opcode).CarriedBy (readDebugOp (data ++ more) opcode) := by
  have unsigned := Cursor.unsigned_append data more
  have optional := Cursor.optional_append data more
  unfold readDebugOp
  split
  · exact .bind unsigned fun _ => .refl _
  · exact .bind (Cursor.signed_append data more) fun _ => .refl _
  · exact .bind unsigned fun _ => .bind optional fun _ => .bind optional fun _ => .refl _
  · exact .bind unsigned fun _ => .bind optional fun _ => .bind optional fun _ =>
      .bind optional fun _ => .refl _
  · exact .bind unsigned fun _ => .refl _
  · exact .bind unsigned fun _ => .refl _
  · exact .refl _
  · exact .refl _
  · exact .bind optional fun _ => .refl _
  · exact .refl _

/-- Steps that end within a bound end in the same way within any larger one. -/
theorem debugOpsWithin_append
    {budget larger : Nat}
    (enough : budget ≤ larger)
    (done : List DebugOp) :
    (debugOpsWithin data budget done).CarriedBy (debugOpsWithin (data ++ more) larger done) := by
  induction budget generalizing larger done with
  | zero =>
      exact fun _ => .error _ _
  | succ budget inductionHypothesis =>
      obtain ⟨larger, rfl⟩ :=
        Nat.exists_eq_add_one_of_ne_zero (Nat.ne_zero_of_lt (Nat.lt_of_succ_le enough))
      refine .bind (Cursor.byte_append data more) fun opcode => .ite (fun _ => .refl _) fun _ => ?_
      exact .bind (readDebugOp_append data more opcode) fun _ =>
        inductionHypothesis (Nat.le_of_succ_le_succ enough) _

theorem readDebugOps_append : (readDebugOps data).CarriedBy (readDebugOps (data ++ more)) := by
  intro position
  have grows : data.size - position ≤ (data ++ more).size - position := by
    rw [Array.size_append]
    omega
  exact debugOpsWithin_append data more grows [] position

theorem readDebugInfo_append : (readDebugInfo data).CarriedBy (readDebugInfo (data ++ more)) :=
  .bind (Cursor.unsigned_append data more) fun _ =>
    .bind (Cursor.unsigned_append data more) fun _ =>
    .bind ((Cursor.optional_append data more).times _) fun _ =>
    .bind (readDebugOps_append data more) fun _ => .refl _

theorem readHandler_append : (readHandler data).CarriedBy (readHandler (data ++ more)) := by
  have unsigned := Cursor.unsigned_append data more
  refine .bind (Cursor.signed_append data more) fun _ => .bind (.times ?_ _) fun _ =>
    .ite (fun _ => .bind unsigned fun _ => .refl _) fun _ => .refl _
  exact .bind unsigned fun _ => .bind unsigned fun _ => .refl _

theorem readHandlers_append : (readHandlers data).CarriedBy (readHandlers (data ++ more)) :=
  .bind (Cursor.unsigned_append data more) fun _ =>
    .times (.bind (.refl _) fun _ => .bind (readHandler_append data more) fun _ => .refl _) _

theorem tryAt_append (handlerOffsets : List Nat) (offset : Nat) :
    CarriedBy (tryAt data handlerOffsets offset) (tryAt (data ++ more) handlerOffsets offset) := by
  refine .bind (u16At_append data more _) fun _ => ?_
  split
  · exact .refl _
  · exact .bind (u32At_append data more _) fun _ => .bind (u16At_append data more _) fun _ => .refl _

theorem triesAt_append (offset count : Nat) :
    CarriedBy (triesAt data offset count) (triesAt (data ++ more) offset count) :=
  .bind ((readHandlers_append data more).readAt _) fun _ =>
    .bind (.collect (fun _ => tryAt_append data more _ _) _) fun _ => .refl _

theorem bodyAt_append (offset : Nat) :
    CarriedBy (bodyAt data offset) (bodyAt (data ++ more) offset) := by
  have short (offset : Nat) := u16At_append data more offset
  have number (offset : Nat) := natAt_append data more offset
  refine .bind (short _) fun _ => .bind (short _) fun _ => .bind (short _) fun _ =>
    .bind (short _) fun _ => .bind (number _) fun _ => .bind (number _) fun _ =>
    .bind (bytesAt_append data more _ _) fun _ => ?_
  refine .iteThen (fun _ => .refl _) (fun _ => triesAt_append data more _ _) fun _ => ?_
  exact .iteThen (fun _ => .refl _) (fun _ => .map _ ((readDebugInfo_append data more).readAt _))
    fun _ => .refl _

/-! ## Pools -/

/-- A zero byte that is found is the first one, however far it is looked for. -/
theorem zeroWithin_append
    {budget larger position stop : Nat}
    (enough : budget ≤ larger)
    (found : zeroWithin data budget position = some stop) :
    zeroWithin (data ++ more) larger position = some stop := by
  induction budget generalizing larger position with
  | zero =>
      cases found
  | succ budget inductionHypothesis =>
      obtain ⟨larger, rfl⟩ :=
        Nat.exists_eq_add_one_of_ne_zero (Nat.ne_zero_of_lt (Nat.lt_of_succ_le enough))
      rw [zeroWithin] at found ⊢
      cases here : data[position]? with
      | none =>
          simp [here] at found
      | some byte =>
          simp only [here] at found
          simp only [getElem?_append_of_some data more here]
          split at found
          · next zero =>
              rw [if_pos zero]
              exact found
          · next nonzero =>
              rw [if_neg nonzero]
              exact inductionHypothesis (Nat.le_of_succ_le_succ enough) found

/-- A zero byte is found within the data. -/
theorem lt_size_of_zeroWithin
    {budget position stop : Nat}
    (found : zeroWithin data budget position = some stop) :
    stop < data.size := by
  induction budget generalizing position with
  | zero =>
      cases found
  | succ budget inductionHypothesis =>
      rw [zeroWithin] at found
      split at found
      · cases found
      · next byte here =>
          split at found
          · obtain rfl := Option.some.inj found
            exact (Array.getElem?_eq_some_iff.mp here).1
          · exact inductionHypothesis found

theorem stringAt_append (offset : Nat) :
    CarriedBy (stringAt data offset) (stringAt (data ++ more) offset) := by
  refine .bind (Cursor.unsigned_append data more offset) fun ⟨length, start⟩ => ?_
  intro string read
  dsimp only at read ⊢
  split at read
  · cases read
  · next stop found =>
      have grows : data.size - start ≤ (data ++ more).size - start := by
        rw [Array.size_append]
        omega
      have inside := lt_size_of_zeroWithin data found
      rw [zeroWithin_append data more grows found]
      dsimp only
      rw [Array.extract_append_of_stop_le_size_left (Nat.le_of_lt inside)]
      exact read

theorem typeListAt_append (types offset : Nat) :
    CarriedBy (typeListAt data types offset) (typeListAt (data ++ more) types offset) := by
  refine .ite (fun _ => .refl _) fun _ => .bind (natAt_append data more _) fun _ => ?_
  exact .collect (fun _ => .bind (u16At_append data more _) fun _ => .refl _) _

theorem readTable_append
    {α : Type}
    {first second : Nat → Except DecodeError α}
    (each : ∀ offset, CarriedBy (first offset) (second offset))
    (position entrySize : Nat) :
    CarriedBy (readTable data position entrySize first)
      (readTable (data ++ more) position entrySize second) := by
  have table : CarriedBy (tableAt data position) (tableAt (data ++ more) position) :=
    .bind (natAt_append data more _) fun _ => .bind (natAt_append data more _) fun _ => .refl _
  exact .bind table fun _ => .bind (.collect (fun _ => each _) _) fun _ => .refl _

theorem protoAt_append (container : Container) (offset : Nat) :
    CarriedBy (protoAt data container offset) (protoAt (data ++ more) container offset) :=
  .bind (u32At_append data more _) fun _ => .bind (.refl _) fun _ =>
    .bind (u32At_append data more _) fun _ => .bind (.refl _) fun _ =>
    .bind (natAt_append data more _) fun _ =>
    .bind (typeListAt_append data more _ _) fun _ => .refl _

theorem fieldAt_append (container : Container) (offset : Nat) :
    CarriedBy (fieldAt data container offset) (fieldAt (data ++ more) container offset) :=
  .bind (u16At_append data more _) fun _ => .bind (.refl _) fun _ =>
    .bind (u16At_append data more _) fun _ => .bind (.refl _) fun _ =>
    .bind (u32At_append data more _) fun _ => .refl _

theorem methodAt_append (container : Container) (offset : Nat) :
    CarriedBy (methodAt data container offset) (methodAt (data ++ more) container offset) :=
  .bind (u16At_append data more _) fun _ => .bind (.refl _) fun _ =>
    .bind (u16At_append data more _) fun _ => .bind (.refl _) fun _ =>
    .bind (u32At_append data more _) fun _ => .refl _

/-! ## Sections and classes -/

theorem readSection_append (container : Container) (offset : Nat) :
    CarriedBy (readSection data container offset) (readSection (data ++ more) container offset) := by
  have short (offset : Nat) := u16At_append data more offset
  have number (offset : Nat) := natAt_append data more offset
  refine .bind (short _) fun _ => .bind (number _) fun _ => .bind (number _) fun _ =>
    .ite (fun _ => ?_) fun _ => .ite (fun _ => ?_) fun _ => .ite (fun _ => ?_) fun _ => .refl _
  · refine .bind (.collect (fun _ => .bind (number _) fun _ => ?_) _) fun _ => .refl _
    exact (readValues_append data more).readAt _
  · refine .bind (.collect (fun _ => ?_) _) fun _ => .refl _
    exact .bind (short _) fun _ => .bind (short _) fun _ => .refl _
  · exact .bind (number _) fun _ => .bind (bytesAt_append data more _ _) fun _ => .refl _

theorem readSections_append (remaining offset : Nat) (container : Container) :
    CarriedBy (readSections data remaining offset container)
      (readSections (data ++ more) remaining offset container) := by
  induction remaining generalizing offset container with
  | zero =>
      exact .refl _
  | succ remaining inductionHypothesis =>
      rw [readSections_succ, readSections_succ]
      exact .bind (readSection_append data more container offset) fun next =>
        inductionHypothesis (offset + 12) next

theorem readMemberField_append (fields : Nat) (previous : UInt32) :
    (readMemberField data fields previous).CarriedBy
      (readMemberField (data ++ more) fields previous) :=
  .bind (Cursor.unsigned_append data more) fun _ => .bind (.refl _) fun _ =>
    .bind (Cursor.unsigned_append data more) fun _ => .refl _

theorem readMemberMethod_append (methods : Nat) (previous : UInt32) :
    (readMemberMethod data methods previous).CarriedBy
      (readMemberMethod (data ++ more) methods previous) := by
  have unsigned := Cursor.unsigned_append data more
  refine .bind unsigned fun _ => .bind unsigned fun _ => .bind unsigned fun _ =>
    .bind (.refl _) fun _ => .ite (fun _ => .refl _) fun _ => ?_
  exact .bind (.lift (bodyAt_append data more _)) fun _ => .refl _

theorem readClassData_append (container : Container) :
    (readClassData data container).CarriedBy (readClassData (data ++ more) container) := by
  have unsigned := Cursor.unsigned_append data more
  have fields (count : Nat) :=
    Cursor.CarriedBy.ascending MemberField.field
      (readMemberField_append data more container.fields.size) count
  have methods (count : Nat) :=
    Cursor.CarriedBy.ascending MemberMethod.method
      (readMemberMethod_append data more container.methods.size) count
  refine .bind unsigned fun _ => .bind unsigned fun _ => .bind unsigned fun _ =>
    .bind unsigned fun _ => ?_
  exact .bind (fields _) fun _ => .bind (fields _) fun _ => .bind (methods _) fun _ =>
    .bind (methods _) fun _ => .refl _

theorem optionalAt_append (pool : Pool) (size offset : Nat) :
    CarriedBy (optionalAt data pool size offset) (optionalAt (data ++ more) pool size offset) :=
  .bind (u32At_append data more _) fun _ => .refl _

theorem atOffset_carriedBy
    {α : Type}
    {first second : Nat → Except DecodeError α}
    (carried : ∀ offset, CarriedBy (first offset) (second offset))
    (offset : Nat) :
    CarriedBy (atOffset offset first) (atOffset offset second) :=
  .ite (fun _ => .refl _) fun _ => .map _ (carried offset)

theorem classAt_append (container : Container) (offset : Nat) :
    CarriedBy (classAt data container offset) (classAt (data ++ more) container offset) := by
  have word (offset : Nat) := u32At_append data more offset
  have number (offset : Nat) := natAt_append data more offset
  refine .bind (optionalAt_append data more _ _ _) fun _ =>
    .bind (optionalAt_append data more _ _ _) fun _ => .bind (number _) fun _ =>
    .bind (number _) fun _ => .bind (number _) fun _ => .bind (word _) fun _ =>
    .bind (.refl _) fun _ => .bind (word _) fun _ => .bind (number _) fun _ =>
    .bind (typeListAt_append data more _ _) fun _ => ?_
  exact .bind (atOffset_carriedBy (directoryAt_append data more) _) fun _ =>
    .bind (atOffset_carriedBy (readClassData_append data more container).readAt _) fun _ =>
    .bind (atOffset_carriedBy (readValues_append data more).readAt _) fun _ => .refl _

/-! ## Images -/

theorem readHeader_append : CarriedBy (readHeader data) (readHeader (data ++ more)) := by
  refine .bind (bytesAt_append data more _ _) fun header => ?_
  split
  · refine .ite (fun _ => .error _ _) fun _ => .ite (fun _ => .error _ _) fun _ => ?_
    refine .bind (u32At_append data more _) fun _ => .ite (fun _ => .error _ _) fun _ => ?_
    exact .bind (natAt_append data more _) fun _ => .refl _
  · exact .refl _

end More

namespace Container

/-- An image is read as the same container, whatever stands behind it. -/
theorem decode_append
    {data : Bytes}
    {container : Container}
    (decoded : decode data = .ok container)
    (more : Bytes) :
    decode (data ++ more) = .ok container := by
  suffices carried : CarriedBy (decode data) (decode (data ++ more)) from carried decoded
  have number (offset : Nat) := natAt_append data more offset
  have classes (pools : Container) :
      CarriedBy
        (do
          let classes ← readTable data 0x60 32 (classAt data pools)
          return { pools with classes := classes.toList })
        (do
          let classes ← readTable (data ++ more) 0x60 32 (classAt (data ++ more) pools)
          return { pools with classes := classes.toList }) :=
    .bind (readTable_append data more (classAt_append data more _) _ _) fun _ => .refl _
  refine .bind (readHeader_append data more) fun _ => .bind (readTable_append data more ?_ _ _)
    fun _ => .bind (readTable_append data more ?_ _ _) fun _ =>
    .bind (readTable_append data more (protoAt_append data more _) _ _) fun _ =>
    .bind (readTable_append data more (fieldAt_append data more _) _ _) fun _ =>
    .bind (readTable_append data more (methodAt_append data more _) _ _) fun _ =>
    .bind (number _) fun _ => .ite (fun _ => classes _) fun _ => .bind (number _) fun _ =>
    .bind (readSections_append data more _ _ _) fun _ => classes _
  · exact fun _ => .bind (number _) fun _ => stringAt_append data more _
  · exact fun _ => .bind (u32At_append data more _) fun _ => .refl _

/-- Three bytes behind the image of the unsorted container change nothing. -/
theorem decode_append_unsorted :
    decode unsorted.canonical.image = .ok unsorted.canonical ∧
      decode (unsorted.canonical.image ++ #[0x64, 0x65, 0x78]) = .ok unsorted.canonical :=
  ⟨decode_canonical_unsorted, decode_append decode_canonical_unsorted #[0x64, 0x65, 0x78]⟩

end Container

end DexPatch
