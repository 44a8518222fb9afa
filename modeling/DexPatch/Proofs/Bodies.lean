import DexPatch.Image.BodyReader
import DexPatch.Image.Values
import DexPatch.Proofs.Reading
import DexPatch.Proofs.Shapes
import DexPatch.Renumber.Representable

namespace DexPatch

/-!
# Bodies read back

Debug steps end at a zero byte, since no step has the opcode zero.  A handler
tells by the sign of its count whether a catch-all address follows, and a try
range finds its handler again because no two handlers start at one place.
-/

/-! ## Debug information -/

/-- None of the values that may be absent is the number that is written like an absent one. -/
def Presentable (values : List (Option UInt32)) : Prop :=
  some 0xffffffff ∉ values

instance (values : List (Option UInt32)) : Decidable (Presentable values) :=
  inferInstanceAs (Decidable (_ ∉ _))

/-- The strings and types that a debug step may leave out. -/
def DebugOp.options : DebugOp → List (Option UInt32)
  | .startLocal _ name type => [name, type]
  | .startLocalExtended _ name type signature => [name, type, signature]
  | .setFile name => [name]
  | _ => []

namespace Cursor.Reads

/-- A debug step is read behind its opcode, which is not zero. -/
theorem debugOp
    {op : DebugOp}
    (shaped : op.Shaped)
    (presentable : Presentable op.options) :
    ∃ opcode rest,
      op.bytes = opcode :: rest ∧
        opcode ≠ 0 ∧
        Reads (fun data => readDebugOp data opcode) rest op := by
  cases op with
  | advancePc delta =>
      exact ⟨0x01, _, rfl, by decide, (unsigned delta).map _⟩
  | advanceLine delta =>
      exact ⟨0x02, _, rfl, by decide, (signed delta).map _⟩
  | startLocal register name type =>
      simp only [Presentable, DebugOp.options, List.mem_cons, List.not_mem_nil, or_false,
        not_or] at presentable
      refine
        ⟨0x03, Leb128.unsigned register ++ (Leb128.optional name ++ Leb128.optional type),
          by simp [DebugOp.bytes], by decide, ?_⟩
      exact andThen (unsigned register)
        (andThen (optional (Ne.symm presentable.1))
          ((optional (Ne.symm presentable.2)).map _))
  | startLocalExtended register name type signature =>
      simp only [Presentable, DebugOp.options, List.mem_cons, List.not_mem_nil, or_false,
        not_or] at presentable
      refine
        ⟨0x04,
          Leb128.unsigned register ++
            (Leb128.optional name ++ (Leb128.optional type ++ Leb128.optional signature)),
          by simp [DebugOp.bytes], by decide, ?_⟩
      exact andThen (unsigned register)
        (andThen (optional (Ne.symm presentable.1))
          (andThen (optional (Ne.symm presentable.2.1))
            ((optional (Ne.symm presentable.2.2)).map _)))
  | endLocal register =>
      exact ⟨0x05, _, rfl, by decide, (unsigned register).map _⟩
  | restartLocal register =>
      exact ⟨0x06, _, rfl, by decide, (unsigned register).map _⟩
  | prologueEnd =>
      exact ⟨0x07, _, rfl, by decide, done _⟩
  | epilogueBegin =>
      exact ⟨0x08, _, rfl, by decide, done _⟩
  | setFile name =>
      simp only [Presentable, DebugOp.options, List.mem_cons, List.not_mem_nil, or_false]
        at presentable
      exact ⟨0x09, _, rfl, by decide, (optional (Ne.symm presentable)).map _⟩
  | special opcode =>
      have high : 0x0a ≤ opcode.toNat := shaped
      refine ⟨opcode, [], rfl, ?_, ?_⟩
      · rintro rfl
        exact absurd high (by decide)
      · have any (data : Bytes) : readDebugOp data opcode = pure (.special opcode) := by
          unfold readDebugOp
          split <;> first | omega | rfl
        intro data position _
        show readDebugOp data opcode position = _
        rw [any]
        rfl

/-- Debug steps are read up to the zero byte, within a budget of more than their number. -/
theorem debugOpsWithin
    {ops : List DebugOp}
    (shaped : ∀ op ∈ ops, op.Shaped)
    (presentable : ∀ op ∈ ops, Presentable op.options)
    {budget : Nat}
    (enough : ops.length < budget)
    (given : List DebugOp) :
    Reads (fun data => DexPatch.debugOpsWithin data budget given)
      (ops.flatMap DebugOp.bytes ++ [0]) (given.reverse ++ ops) := by
  induction ops generalizing budget given with
  | nil =>
      obtain ⟨budget, rfl⟩ : ∃ less, budget = less + 1 := ⟨budget - 1, by simp at enough; omega⟩
      intro data position held
      have read := byte 0 held
      show DexPatch.debugOpsWithin data (budget + 1) given position = _
      rw [DexPatch.debugOpsWithin, bind_of_ok read]
      simp [pure, StateT.pure, Except.pure]
  | cons op rest inductionHypothesis =>
      obtain ⟨budget, rfl⟩ : ∃ less, budget = less + 1 := ⟨budget - 1, by simp at enough; omega⟩
      obtain ⟨opcode, operands, shape, nonzero, readsOp⟩ :=
        debugOp (shaped op (by simp)) (presentable op (by simp))
      have readsRest :=
        inductionHypothesis
          (fun other member => shaped other (by simp [member]))
          (fun other member => presentable other (by simp [member]))
          (by simpa using enough) (op :: given)
      intro data position held
      rw [List.flatMap_cons, shape, List.append_assoc, List.cons_append] at held
      have read : Cursor.byte data position = .ok (opcode, position + 1) :=
        byte opcode held.front
      show DexPatch.debugOpsWithin data (budget + 1) given position = _
      rw [DexPatch.debugOpsWithin, bind_of_ok read, if_neg nonzero,
        bind_of_ok (readsOp held.tail.left)]
      refine (readsRest held.tail.right).trans ?_
      rw [List.flatMap_cons, shape]
      simp [Nat.add_assoc, Nat.add_comm 1]

/-- Debug steps are read up to the zero byte behind them. -/
theorem debugOps
    {ops : List DebugOp}
    (shaped : ∀ op ∈ ops, op.Shaped)
    (presentable : ∀ op ∈ ops, Presentable op.options) :
    Reads readDebugOps (ops.flatMap DebugOp.bytes ++ [0]) ops := by
  intro data position held
  have inside := held.le_size
  have few := length_le_length_flatMap DebugOp.bytes ops fun op member => by
    obtain ⟨opcode, rest, shape, -⟩ := debugOp (shaped op member) (presentable op member)
    show 0 < op.bytes.length
    simp [shape]
  simp only [List.length_append, List.length_singleton] at inside
  exact debugOpsWithin shaped presentable (by omega) [] held

/-- Debug information is read wherever it is held. -/
theorem debugInfo
    {debug : DebugInfo}
    (fits : debug.bytes.length < 4294967296)
    (shaped : ∀ op ∈ debug.ops, op.Shaped)
    (presentable : Presentable (debug.parameterNames ++ debug.ops.flatMap DebugOp.options)) :
    Reads readDebugInfo debug.bytes debug := by
  have few :=
    length_le_length_flatMap Leb128.optional debug.parameterNames fun name _ =>
      show 0 < (Leb128.optional name).length from Leb128.length_unsigned_pos _
  simp only [DebugInfo.bytes, List.length_append] at fits
  rw [DebugInfo.bytes]
  simp only [List.append_assoc]
  refine andThen (unsigned debug.lineStart)
    (countedThen
      (fun parameterNames data => readDebugOps data >>= fun ops =>
        pure ({ lineStart := debug.lineStart, parameterNames, ops } : DebugInfo))
      (fun name member => optional ?_) (by omega)
      ((debugOps shaped fun op member => ?_).map _))
  · rintro rfl
    exact presentable (by simp [member])
  · intro absent
    exact presentable (List.mem_append_right _ (List.mem_flatMap.mpr ⟨op, member, absent⟩))

end Cursor.Reads

/-! ## Handlers -/

/-- A handler's signed count tells the number of its catches and whether it catches all. -/
theorem CatchHandler.countNumber_spec
    {handler : CatchHandler}
    (shaped : handler.Shaped)
    (few : handler.catches.length < 2147483648) :
    handler.countNumber.toInt.natAbs = handler.catches.length ∧
      (handler.countNumber.toInt ≤ 0 ↔ handler.catchAll.isSome) := by
  have count : (Int32.ofInt handler.catches.length).toInt = handler.catches.length :=
    Int32.toInt_ofInt_of_le (by omega) (by omega)
  have negated : (-Int32.ofInt handler.catches.length).toInt = -handler.catches.length := by
    rw [← Int32.ofInt_neg]
    exact Int32.toInt_ofInt_of_le (by omega) (by omega)
  unfold countNumber
  cases all : handler.catchAll with
  | some address =>
      simp only [Option.isSome_some, ↓reduceIte, negated, Int.natAbs_neg, Int.natAbs_natCast,
        iff_true, true_and]
      omega
  | none =>
      have some : handler.catches.length ≠ 0 := by
        intro none
        have := shaped (List.eq_nil_of_length_eq_zero none)
        simp [all] at this
      simp only [Option.isSome_none, Bool.false_eq_true, ↓reduceIte, count, Int.natAbs_natCast,
        iff_false, true_and]
      omega

/-- Every handler takes a byte for its count. -/
theorem CatchHandler.length_bytes_pos (handler : CatchHandler) : 0 < handler.bytes.length := by
  have : 0 < (Leb128.signed handler.countNumber).length := Leb128.length_signed_pos _
  simp only [bytes, List.length_append]
  omega

namespace Cursor.Reads

/-- A handler is read wherever it is held. -/
theorem handler
    {handler : CatchHandler}
    (shaped : handler.Shaped)
    (fits : handler.bytes.length < 4294967296) :
    Reads readHandler handler.bytes handler := by
  have few :=
    length_mul_le_length_flatMap _ handler.catches 2 fun entry _ =>
      show 2 ≤ (Leb128.unsigned entry.1 ++ Leb128.unsigned entry.2).length by
        have := Leb128.length_unsigned_pos entry.1
        have := Leb128.length_unsigned_pos entry.2
        simp only [List.length_append]
        omega
  simp only [CatchHandler.bytes, List.length_append] at fits
  obtain ⟨count, sign⟩ := handler.countNumber_spec shaped (by omega)
  have readsCatches :
      Reads (fun data => Cursor.times handler.countNumber.toInt.natAbs (readCatch data))
        (handler.catches.flatMap fun entry => Leb128.unsigned entry.1 ++ Leb128.unsigned entry.2)
        handler.catches := by
    rw [count]
    exact times fun entry _ => andThen (unsigned entry.1) ((unsigned entry.2).map _)
  rw [CatchHandler.bytes, List.append_assoc]
  refine andThen (signed handler.countNumber) (andThen readsCatches ?_)
  cases all : handler.catchAll with
  | some address =>
      have negative := sign.mpr (by simp [all])
      have reads :=
        (unsigned address).map fun address =>
          ({ catches := handler.catches, catchAll := some address } : CatchHandler)
      rw [← all] at reads
      simpa only [negative, ↓reduceIte] using reads
  | none =>
      have positive : ¬ handler.countNumber.toInt ≤ 0 := by simp [sign, all]
      have reads := done ({ catches := handler.catches, catchAll := none } : CatchHandler)
      have whole : handler = { catches := handler.catches, catchAll := none } := by
        rw [← all]
      simp only [positive, ↓reduceIte]
      exact whole ▸ reads

end Cursor.Reads

namespace HandlerList

theorem length_startsFrom (offset : Nat) (pieces : List (List UInt8)) :
    (startsFrom offset pieces).length = pieces.length := by
  induction pieces generalizing offset with
  | nil =>
      rfl
  | cons piece rest inductionHypothesis =>
      simp [startsFrom, inductionHypothesis]

/-- No piece starts in front of the offset from which on they stand. -/
theorem le_of_mem_startsFrom
    {offset start : Nat}
    {pieces : List (List UInt8)}
    (member : start ∈ startsFrom offset pieces) :
    offset ≤ start := by
  induction pieces generalizing offset with
  | nil =>
      simp [startsFrom] at member
  | cons piece rest inductionHypothesis =>
      rcases List.mem_cons.mp member with rfl | later
      · exact Nat.le_refl _
      · have := inductionHypothesis later
        omega

/-- Pieces that are not empty start at different offsets. -/
theorem nodup_startsFrom
    {offset : Nat}
    {pieces : List (List UInt8)}
    (positive : ∀ piece ∈ pieces, 0 < piece.length) :
    (startsFrom offset pieces).Nodup := by
  induction pieces generalizing offset with
  | nil =>
      simp [startsFrom]
  | cons piece rest inductionHypothesis =>
      refine List.nodup_cons.mpr ⟨?_, inductionHypothesis fun other member =>
        positive other (by simp [member])⟩
      intro member
      have := le_of_mem_startsFrom member
      have := positive piece (by simp)
      omega

/-- Offsets shifted together. -/
theorem startsFrom_add (offset shift : Nat) (pieces : List (List UInt8)) :
    startsFrom (shift + offset) pieces = (startsFrom offset pieces).map (shift + ·) := by
  induction pieces generalizing offset with
  | nil =>
      rfl
  | cons piece rest inductionHypothesis =>
      simp [startsFrom, Nat.add_assoc, inductionHypothesis]

end HandlerList

/-- Repeating the reader of a handler gives each handler with the position at which it starts. -/
theorem timesFrom_readHandler
    {data : Bytes}
    {handlers : List CatchHandler}
    (shaped : ∀ handler ∈ handlers, handler.Shaped)
    (fits : data.size < 4294967296)
    {position : Nat}
    (held : Holds data position (handlers.flatMap CatchHandler.bytes))
    (given : List (Nat × CatchHandler)) :
    Cursor.timesFrom
        (do
          let start ← get
          return (start, ← readHandler data))
        handlers.length given position =
      .ok
        (given.reverse ++
            List.zip (HandlerList.startsFrom position (handlers.map CatchHandler.bytes)) handlers,
          position + (handlers.flatMap CatchHandler.bytes).length) := by
  induction handlers generalizing position given with
  | nil =>
      simp [Cursor.timesFrom, HandlerList.startsFrom]
  | cons handler rest inductionHypothesis =>
      rw [List.flatMap_cons] at held
      have inside := held.left.le_size
      have read :=
        Cursor.Reads.handler (shaped handler (by simp)) (by omega) held.left
      have readsRest :=
        inductionHypothesis (fun other member => shaped other (by simp [member])) held.right
          ((position, handler) :: given)
      rw [List.length_cons,
        Cursor.timesFrom_of_ok (x := (position, handler)) (Cursor.bind_eq_ok_iff.mpr
          ⟨position, position, rfl, Cursor.bind_eq_ok_iff.mpr ⟨handler, _, read, rfl⟩⟩)]
      simpa [HandlerList.startsFrom, Nat.add_assoc] using readsRest

/-- A list of handlers is read with the position at which each starts. -/
theorem readHandlers_of_holds
    {data : Bytes}
    {handlers : List CatchHandler}
    (shaped : ∀ handler ∈ handlers, handler.Shaped)
    (fits : data.size < 4294967296)
    {position : Nat}
    (held : Holds data position (HandlerList.ofHandlers handlers).bytes) :
    (readHandlers data).readAt position =
      .ok (List.zip ((HandlerList.ofHandlers handlers).offsets.map (position + ·)) handlers) := by
  simp only [HandlerList.ofHandlers, ← List.flatMap_def] at held
  have few := length_le_length_flatMap _ handlers fun handler _ => handler.length_bytes_pos
  have inside := held.right.le_size
  have count : (UInt32.ofNat handlers.length).toNat = handlers.length := by
    simp
    omega
  have read := timesFrom_readHandler shaped fits held.right []
  rw [HandlerList.startsFrom_add] at read
  have reads := Cursor.Reads.unsigned (UInt32.ofNat handlers.length) held.left
  rw [readHandlers, Cursor.readAt_bind_of_ok reads, count]
  exact Cursor.readAt_of_ok read

/-! ## Bodies -/

/-- Code units are read from their digits. -/
theorem unitsOf_flatMap (code : List UInt16) :
    unitsOf (code.flatMap fun unit => le16 unit.toNat) = code := by
  induction code with
  | nil =>
      rfl
  | cons unit rest inductionHypothesis =>
      have small := unit.toNat_lt
      have low : (UInt8.ofNat unit.toNat).toNat = unit.toNat % 256 := by simp
      have high : (UInt8.ofNat (unit.toNat / 256)).toNat = unit.toNat / 256 := by
        simp
        omega
      show
        UInt16.ofNat
            ((UInt8.ofNat unit.toNat).toNat + (UInt8.ofNat (unit.toNat / 256)).toNat * 256) ::
          unitsOf (rest.flatMap fun unit => le16 unit.toNat) = unit :: rest
      rw [inductionHypothesis, low, high, Nat.mod_add_div']
      simp

theorem length_unitBytes (code : List UInt16) :
    (code.flatMap fun unit => le16 unit.toNat).length = code.length * 2 := by
  simp [List.length_flatMap, le16, List.map_const']

/-- A try range whose handler can be named. -/
def TryRange.Placed (list : HandlerList) (range : TryRange) : Prop :=
  ∃ offset, list.offsets[range.handler]? = some offset ∧ offset < 65536

instance (list : HandlerList) (range : TryRange) : Decidable (range.Placed list) :=
  inferInstanceAs (Decidable (∃ offset ∈ list.offsets[range.handler]?, offset < 65536))

theorem TryRange.placed_of_check
    {list : HandlerList}
    {range : TryRange}
    (checks : Container.checkTry list range = .ok ()) :
    range.Placed list := by
  unfold Container.checkTry at checks
  split at checks
  · simp at checks
  · next offset found =>
      refine ⟨offset, found, ?_⟩
      by_cases small : offset < 65536
      · exact small
      · simp [small] at checks

/-- A try range is read wherever it is held, given the offsets of all handlers. -/
theorem tryAt_of_holds
    {data : Bytes}
    {offset : Nat}
    {list : HandlerList}
    {range : TryRange}
    (different : list.offsets.Nodup)
    (placed : range.Placed list)
    (held : Holds data offset (range.bytes list)) :
    tryAt data list.offsets offset = .ok range := by
  obtain ⟨handlerOffset, found, small⟩ := placed
  obtain ⟨inside, isOffset⟩ := List.getElem?_eq_some_iff.mp found
  simp only [TryRange.bytes, found, Option.getD_some] at held
  have named :
      list.offsets.findIdx? (· == (UInt16.ofNat handlerOffset).toNat) = some range.handler := by
    have same : (UInt16.ofNat handlerOffset).toNat = handlerOffset := by
      simp
      omega
    rw [same, List.findIdx?_eq_some_iff_getElem]
    refine ⟨inside, by simpa using isOffset, ?_⟩
    intro earlier before
    simp only [beq_iff_eq]
    intro twice
    have := (List.getElem_inj different).mp (twice.trans isOffset.symm)
    omega
  have readsHandler := u16At_of_holds small held.right
  have readsStart := u32At_toNat_of_holds held.left.left
  have readsLength := u16At_toNat_of_holds held.left.right
  simp only [List.length_append, le32, le16, length_littleEndian] at readsHandler readsLength
  rw [tryAt, bind_of_ok readsHandler]
  simp only [named]
  rw [bind_of_ok readsStart, bind_of_ok readsLength]
  rfl

/-- Handlers that are not empty have offsets of their own. -/
theorem HandlerList.nodup_offsets (handlers : List CatchHandler) :
    (ofHandlers handlers).offsets.Nodup := by
  refine nodup_startsFrom fun piece member => ?_
  obtain ⟨handler, -, rfl⟩ := List.mem_map.mp member
  exact handler.length_bytes_pos

theorem HandlerList.length_offsets (handlers : List CatchHandler) :
    (ofHandlers handlers).offsets.length = handlers.length := by
  simp [ofHandlers, length_startsFrom]

theorem TryRange.length_bytes (list : HandlerList) (range : TryRange) :
    (range.bytes list).length = 8 := by
  simp [TryRange.bytes, le32, le16]

/-- Try ranges are read with the handlers behind them. -/
theorem triesAt_of_holds
    {data : Bytes}
    {offset : Nat}
    {tries : List TryRange}
    {handlers : List CatchHandler}
    (shaped : ∀ handler ∈ handlers, handler.Shaped)
    (placed : ∀ range ∈ tries, range.Placed (.ofHandlers handlers))
    (fits : data.size < 4294967296)
    (held :
      Holds data offset
        (tries.flatMap (TryRange.bytes (.ofHandlers handlers)) ++
          (HandlerList.ofHandlers handlers).bytes)) :
    triesAt data offset tries.length = .ok (tries, handlers) := by
  have triesLength :
      (tries.flatMap (TryRange.bytes (.ofHandlers handlers))).length = tries.length * 8 := by
    simp [List.length_flatMap, TryRange.length_bytes, List.map_const']
  have handlersHeld := held.right
  rw [triesLength] at handlersHeld
  have sameLength :
      (HandlerList.ofHandlers handlers).offsets.length = handlers.length :=
    HandlerList.length_offsets handlers
  have starts :
      (List.zip
          ((HandlerList.ofHandlers handlers).offsets.map (offset + tries.length * 8 + ·))
          handlers).map (fun placed => placed.1 - (offset + tries.length * 8)) =
        (HandlerList.ofHandlers handlers).offsets := by
    have unzipped :
        (List.zip
            ((HandlerList.ofHandlers handlers).offsets.map (offset + tries.length * 8 + ·))
            handlers).map Prod.fst =
          (HandlerList.ofHandlers handlers).offsets.map (offset + tries.length * 8 + ·) :=
      List.map_fst_zip (by simp [sameLength])
    have first := congrArg (List.map (· - (offset + tries.length * 8))) unzipped
    rw [List.map_map, List.map_map] at first
    refine Eq.trans first ?_
    simp [Function.comp_def]
  have readsTries :
      collect tries.length
          (fun i => tryAt data (HandlerList.ofHandlers handlers).offsets (offset + i * 8)) =
        .ok tries := by
    refine collect_eq_ok_iff.mpr ⟨rfl, fun i inside => ?_⟩
    exact tryAt_of_holds (HandlerList.nodup_offsets handlers)
      (placed _ (List.getElem_mem inside))
      (held.left.flatMap_getElem_of_width 8 (fun range _ => range.length_bytes _) inside)
  have second :
      (List.zip
          ((HandlerList.ofHandlers handlers).offsets.map (offset + tries.length * 8 + ·))
          handlers).map (·.2) = handlers :=
    List.map_snd_zip (by simp [sameLength])
  rw [triesAt, bind_of_ok (readHandlers_of_holds shaped fits handlersHeld), starts,
    bind_of_ok readsTries, second]
  rfl

/-- A body is read wherever it is held, with the debug information at the offset it gives. -/
theorem bodyAt_of_holds
    {data : Bytes}
    {offset debugOffset : Nat}
    {body : Body}
    (shaped : body.Shaped)
    (placed : ∀ range ∈ body.tries, range.Placed (.ofHandlers body.handlers))
    (fits : data.size < 4294967296)
    (debugFits : debugOffset < 4294967296)
    (debug : atOffset debugOffset (readDebugInfo data).readAt = .ok body.debug)
    (held : Holds data offset (body.bytes debugOffset)) :
    bodyAt data offset = .ok body := by
  have inside := held.le_size
  have unitsLength := length_unitBytes body.code
  simp only [Body.bytes, List.length_append, unitsLength] at inside
  simp only [Body.bytes, Holds.append_iff, List.length_append, length_le16, length_le32,
    and_assoc, Nat.reduceAdd, unitsLength] at held
  obtain ⟨registers, ins, outs, tryCount, debugAt, size, code, tries⟩ := held
  have tryCountRead : (UInt16.ofNat body.tries.length).toNat = body.tries.length := by
    have := shaped.fewTries
    simp
    omega
  have readsCode := bytesAt_of_holds code
  rw [unitsLength] at readsCode
  have readsTries :
      (if body.tries.length = 0 then pure ([], [])
        else
          triesAt data (offset + 16 + body.code.length * 2 + body.code.length % 2 * 2)
            body.tries.length) =
        (.ok (body.tries, body.handlers) : Except DecodeError _) := by
    cases ranges : body.tries with
    | nil =>
        simp [shaped.unguarded ranges, pure, Except.pure]
    | cons range rest =>
        rw [Body.tryBytes, ranges] at tries
        simp only [List.isEmpty_cons, Bool.false_eq_true, ↓reduceIte, List.append_assoc] at tries
        rw [← ranges] at tries ⊢
        have behind := tries.right
        have padded :
            (if body.code.length % 2 = 1 then le16 0 else []).length =
              body.code.length % 2 * 2 := by
          split <;> simp <;> omega
        rw [padded, ← Nat.add_assoc] at behind
        have some : body.tries.length ≠ 0 := by simp [ranges]
        rw [if_neg some]
        exact triesAt_of_holds shaped.handlers placed fits (by simpa [Nat.add_assoc] using behind)
  rw [bodyAt, bind_of_ok (u16At_toNat_of_holds registers), bind_of_ok (u16At_toNat_of_holds ins),
    bind_of_ok (u16At_toNat_of_holds outs),
    bind_of_ok (u16At_of_holds shaped.fewTries tryCount),
    bind_of_ok (natAt_of_holds debugFits debugAt),
    bind_of_ok (natAt_of_holds (by omega) size),
    bind_of_ok readsCode, tryCountRead]
  dsimp only
  rw [ite_bind, bind_of_ok readsTries]
  dsimp only
  rw [ite_bind, unitsOf_flatMap]
  exact bind_of_ok debug

end DexPatch
