import DexPatch.Proofs.Classes

namespace DexPatch

/-!
# The map read back

The map lists every section that is not empty, and three kinds of section are
found through it alone.  Reading the map takes these from their sections and
passes over all others.
-/

/-- A 32-bit field is read wherever one is held, and gives the number that was written if it fits. -/
theorem exists_natAt_of_holds
    {data : Bytes}
    {offset n : Nat}
    (held : Holds data offset (le32 n)) :
    ∃ read, natAt data offset = .ok read ∧ (n < 4294967296 → read = n) := by
  have digits := numberAt_of_holds_digits held
  rw [length_le32, le32, ofLittleEndian_littleEndian] at digits
  refine ⟨(UInt32.ofNat (n % capacity 4)).toNat, ?_, fun fits => ?_⟩
  · simp [natAt, u32At, digits, bind, Except.bind, pure, Except.pure]
  · rw [Nat.mod_eq_of_lt (show n < capacity 4 from fits)]
    simp
    omega

/-- What reading a section of an image makes of a container. -/
def SectionKind.apply (whole : Container) : SectionKind → Container → Container
  | .callSiteIds, container => { container with callSites := whole.callSites }
  | .methodHandles, container => { container with methodHandles := whole.methodHandles }
  | .hiddenApi, container => { container with hiddenApi := whole.hiddenApi }
  | _, container => container

namespace SectionKind

theorem toNat_code (kind : SectionKind) : (UInt16.ofNat kind.code).toNat = kind.code := by
  cases kind <;> rfl

theorem eq_of_code
    {kind other : SectionKind}
    (same : kind.code = other.code) :
    kind = other := by
  cases kind <;> cases other <;> first | rfl | exact absurd same (by decide)

/-- Whether sections of a kind are found through the map alone. -/
def mapOnly : SectionKind → Bool
  | .callSiteIds | .methodHandles | .hiddenApi => true
  | _ => false

/-- Reading a section that is found in another way too changes nothing. -/
theorem apply_of_ignored
    {kind : SectionKind}
    (ignored : kind.mapOnly = false)
    {whole container : Container} :
    kind.apply whole container = container := by
  cases kind <;> first | rfl | exact absurd ignored (by decide)

end SectionKind

/-- A section that is read as it should be wherever its entry of the map is held. -/
def Section.ReadAs (image : Bytes) (whole : Container) (entry : Section) : Prop :=
  ∀ container offset,
    Holds image offset entry.bytes →
      readSection image container offset = .ok (entry.kind.apply whole container)

/-- The fields of an entry of the map. -/
theorem Section.fields_of_holds
    {image : Bytes}
    {entry : Section}
    {offset : Nat}
    (held : Holds image offset entry.bytes) :
    u16At image offset = .ok (UInt16.ofNat entry.kind.code) ∧
      Holds image (offset + 4) (le32 entry.count) ∧
        Holds image (offset + 8) (le32 entry.offset) := by
  simp only [Section.bytes, Holds.append_iff, List.length_append, length_le16, length_le32,
    and_assoc, Nat.reduceAdd] at held
  obtain ⟨kind, -, count, start⟩ := held
  exact ⟨u16At_of_holds (by cases entry.kind <;> decide) kind, count, start⟩

/-- Every section but the three kinds that only the map leads to is passed over. -/
theorem Section.readAs_of_ignored
    {image : Bytes}
    {whole : Container}
    {entry : Section}
    (ignored : entry.kind.mapOnly = false) :
    entry.ReadAs image whole := by
  intro container offset held
  obtain ⟨kind, count, start⟩ := fields_of_holds held
  obtain ⟨readCount, readsCount, -⟩ := exists_natAt_of_holds count
  obtain ⟨readStart, readsStart, -⟩ := exists_natAt_of_holds start
  have other {mapped : SectionKind} (isMapOnly : mapped.mapOnly = true) :
      entry.kind.code ≠ mapped.code := by
    intro same
    rw [SectionKind.eq_of_code same, isMapOnly] at ignored
    contradiction
  rw [readSection, bind_of_ok kind]
  dsimp only
  rw [bind_of_ok readsCount, bind_of_ok readsStart, entry.kind.toNat_code, if_neg (other rfl),
    if_neg (other rfl), if_neg (other rfl), SectionKind.apply_of_ignored ignored]
  rfl

namespace Container

/-- The table of call sites as a section. -/
def callSiteSection (container : Container) : Section :=
  { kind := .callSiteIds, count := container.callSites.length
    offset :=
      112 + container.strings.size * 4 + container.types.size * 4 + container.protos.size * 12 +
        container.fields.size * 8 + container.methods.size * 8 + container.classes.length * 32 }

/-- The table of method handles as a section. -/
def methodHandleSection (container : Container) : Section :=
  { kind := .methodHandles, count := container.methodHandles.length
    offset := container.callSiteSection.offset + container.callSites.length * 4 }

/-- The data has a hidden-API section if the container has one. -/
theorem count_hiddenApi (container : Container) :
    container.data.hiddenApi.entry.count = container.hiddenApi.toList.length := by
  show ([container.hiddenApi.map (·.toList)].filterMap id).length = _
  cases container.hiddenApi <;> rfl

theorem mapOnly_tables
    (container : Container)
    {entry : Section}
    (member : entry ∈ (tableSections Header.size container.tables).take 6) :
    entry.kind.mapOnly = false := by
  have kinds :
      ((tableSections Header.size container.tables).take 6).map (·.kind.mapOnly) =
        List.replicate 6 false := rfl
  exact List.eq_of_mem_replicate (kinds ▸ List.mem_map_of_mem member)

theorem mapOnly_stages
    (container : Container)
    {entry : Section}
    (member : entry ∈ container.data.stages.dropLast.map (·.entry)) :
    entry.kind.mapOnly = false := by
  have kinds :
      (container.data.stages.dropLast.map (·.entry)).map (·.kind.mapOnly) =
        List.replicate 10 false := rfl
  exact List.eq_of_mem_replicate (kinds ▸ List.mem_map_of_mem member)

/-- Among the sections of an image three are found through the map alone, and these stand in the
map if they are not empty. -/
theorem exists_sections_eq (container : Container) :
    ∃ front middle back : List Section,
      container.sections container.data =
          front ++
            [container.callSiteSection, container.methodHandleSection].filter (·.count ≠ 0) ++
              middle ++ [container.data.hiddenApi.entry].filter (·.count ≠ 0) ++ back ∧
        ∀ entry ∈ front ++ middle ++ back, entry.kind.mapOnly = false := by
  let header : Section := { kind := .header, count := 1, offset := 0 }
  let map : Section := { kind := .mapList, count := 1, offset := container.data.layout.position }
  refine ⟨(header :: (tableSections Header.size container.tables).take 6).filter (·.count ≠ 0),
    (container.data.stages.dropLast.map (·.entry)).filter (·.count ≠ 0),
    [map].filter (·.count ≠ 0), ?_, ?_⟩
  · simp only [← List.filter_append]
    rfl
  · intro entry member
    simp only [List.mem_append, List.mem_filter, List.mem_cons, List.not_mem_nil, or_false]
      at member
    rcases member with (⟨rfl | table, -⟩ | ⟨stage, -⟩) | ⟨rfl, -⟩
    · rfl
    · exact container.mapOnly_tables table
    · exact container.mapOnly_stages stage
    · rfl

end Container

namespace Container.WrittenIn

variable {container : Container} {image : Bytes}

/-- Call sites are read from the table of their offsets. -/
theorem readAs_callSites
    (written : container.WrittenIn image)
    (fits : image.size < 4294967296)
    {whole : Container}
    (same : whole.callSites = container.callSites)
    {offset : Nat}
    (held :
      Holds image offset
        ((container.data.arrays.offsets.take container.callSites.length).flatMap le32)) :
    Section.ReadAs image whole
      { kind := .callSiteIds, count := container.callSites.length, offset } := by
  intro other position entryHeld
  obtain ⟨kind, count, start⟩ := Section.fields_of_holds entryHeld
  dsimp only at kind count start
  have tableLength :
      (container.data.arrays.offsets.take container.callSites.length).length =
        container.callSites.length := by
    simp [length_arrayOffsets]
  have inside := held.le_size
  have few := length_mul_le_length_flatMap le32
    (container.data.arrays.offsets.take container.callSites.length) 4 fun _ _ => by simp
  rw [tableLength] at few
  have collected :
      collect container.callSites.length
          (fun i => do (readValues image).readAt (← natAt image (offset + i * 4))) =
        .ok container.callSites := by
    refine collect_eq_ok_iff.mpr ⟨rfl, fun i bound => ?_⟩
    have tableBound :
        i < (container.data.arrays.offsets.take container.callSites.length).length := by
      omega
    obtain ⟨near, reads⟩ :=
      written.leadsToCallSite fits (List.getElem?_eq_getElem bound)
        (List.getElem?_eq_getElem tableBound)
    have entry := held.flatMap_getElem_of_width 4 (fun _ _ => by simp) tableBound
    rw [bind_of_ok (natAt_of_holds near entry)]
    exact reads
  rw [readSection, bind_of_ok kind]
  dsimp only
  rw [bind_of_ok (natAt_of_holds (by omega) count), bind_of_ok (natAt_of_holds (by omega) start),
    if_pos (SectionKind.toNat_code .callSiteIds), bind_of_ok collected, ← same]
  rfl

/-- Handles are read from their table, if their targets fit 16 bits. -/
theorem readAs_methodHandles
    (fits : image.size < 4294967296)
    (brief : ∀ handle ∈ container.methodHandles, handle.target.toNat < 65536)
    {whole : Container}
    (same : whole.methodHandles = container.methodHandles)
    {offset : Nat}
    (held : Holds image offset (container.methodHandles.flatMap MethodHandle.entryBytes)) :
    Section.ReadAs image whole
      { kind := .methodHandles, count := container.methodHandles.length, offset } := by
  intro other position entryHeld
  obtain ⟨kind, count, start⟩ := Section.fields_of_holds entryHeld
  dsimp only at kind count start
  have inside := held.le_size
  have few := length_mul_le_length_flatMap MethodHandle.entryBytes container.methodHandles 8
    fun _ _ => by simp
  have collected :
      collect container.methodHandles.length
          (fun i => do
            let kind ← u16At image (offset + i * 8)
            return ({ kind, target := (← u16At image (offset + i * 8 + 4)).toUInt32 } :
              MethodHandle)) =
        .ok container.methodHandles := by
    refine collect_eq_ok_iff.mpr ⟨rfl, fun i bound => ?_⟩
    have small := brief _ (List.getElem_mem bound)
    have entry := held.flatMap_getElem_of_width 8 (fun _ _ => by simp) bound
    simp only [MethodHandle.entryBytes, Holds.append_iff, List.length_append, length_le16,
      and_assoc, Nat.reduceAdd] at entry
    obtain ⟨handleKind, -, target, -⟩ := entry
    rw [bind_of_ok (u16At_toNat_of_holds handleKind), bind_of_ok (u16At_of_holds small target),
      toUInt32_ofNat_toNat small]
    rfl
  rw [readSection, bind_of_ok kind]
  dsimp only
  rw [bind_of_ok (natAt_of_holds (by omega) count), bind_of_ok (natAt_of_holds (by omega) start),
    if_neg (by decide), if_pos (SectionKind.toNat_code .methodHandles), bind_of_ok collected,
    ← same]
  rfl

/-- A length below four is written as itself and zeros. -/
theorem le32_of_lt {n : Nat} (small : n < 4) :
    le32 n = (le32 n).take n ++ List.replicate (4 - n) 0 ∨ n = 0 := by
  have cases : n = 0 ∨ n = 1 ∨ n = 2 ∨ n = 3 := by omega
  rcases cases with rfl | rfl | rfl | rfl <;> decide

/-- The data holds the hidden-API section, and behind it zeros up to a multiple of four. -/
theorem holds_hiddenApi
    (written : container.WrittenIn image)
    {blob : Bytes}
    (present : container.hiddenApi = some blob) :
    container.data.hiddenApi.entry.offset % 4 = 0 ∧
      container.data.hiddenApi.layout.position =
          container.data.hiddenApi.entry.offset + blob.size ∧
        Holds image container.data.hiddenApi.entry.offset
          (blob.toList ++
            List.replicate (padding 4 (container.data.hiddenApi.entry.offset + blob.size)) 0) := by
  have made :
      container.data.hiddenApi =
        container.data.arrays.layout.stage .hiddenApi 4 [some blob.toList] := by
    have stage :
        container.data.hiddenApi =
          container.data.arrays.layout.stage .hiddenApi 4 [container.hiddenApi.map (·.toList)] :=
      rfl
    rw [stage, present]
    rfl
  obtain ⟨offsets, multiple, ends⟩ :=
    container.data.arrays.layout.stage_single .hiddenApi (by decide : 0 < 4) blob.toList
  rw [← made] at offsets multiple ends
  have placed := container.laidOut.hiddenApi
  rw [present, offsets] at placed
  obtain ⟨-, held⟩ :=
    placed.holds written.data (show (some blob.toList, _) ∈ _ from List.mem_singleton.mpr rfl)
  have zeros := Layout.holds_of_align (show (container.data.hiddenApi.layout.align 4).Within image
    from written.data)
  rw [ends, Array.length_toList] at zeros
  refine ⟨multiple, by rw [ends, Array.length_toList], Holds.append_iff.mpr ⟨held, ?_⟩⟩
  rwa [Array.length_toList]

/-- The data holds the length of a shaped hidden-API section where the section starts, even if the
section is too short to hold it. -/
theorem holds_hiddenApi_length
    (written : container.WrittenIn image)
    {blob : Bytes}
    (present : container.hiddenApi = some blob)
    (shaped : ShapedHiddenApi blob) :
    Holds image container.data.hiddenApi.entry.offset (le32 blob.size) := by
  obtain ⟨multiple, -, held⟩ := written.holds_hiddenApi present
  obtain ⟨nonempty, front⟩ := shaped
  by_cases long : 4 ≤ blob.size
  · rw [List.take_of_length_le (show (le32 blob.size).length ≤ blob.size by simpa using long)]
      at front
    rw [← front]
    have start := held.left
    rw [← List.take_append_drop 4 blob.toList] at start
    exact start.left
  · rw [List.take_of_length_le (show blob.toList.length ≤ 4 by simp; omega)] at front
    have gap : padding 4 (container.data.hiddenApi.entry.offset + blob.size) = 4 - blob.size := by
      simp only [padding]
      omega
    rw [gap] at held
    rcases le32_of_lt (show blob.size < 4 by omega) with shape | empty
    · rwa [shape, ← front]
    · omega

/-- The hidden-API section is read from the length that stands where it starts. -/
theorem readAs_hiddenApi
    (fits : image.size < 4294967296)
    {whole : Container}
    {blob : List UInt8}
    (present : whole.hiddenApi = some blob.toArray)
    (length : Holds image container.data.hiddenApi.entry.offset (le32 blob.length))
    (held : Holds image container.data.hiddenApi.entry.offset blob) :
    container.data.hiddenApi.entry.ReadAs image whole := by
  intro other position entryHeld
  obtain ⟨kind, count, start⟩ := Section.fields_of_holds entryHeld
  have inside := held.le_size
  have lengthInside := length.le_size
  rw [length_le32] at lengthInside
  have isHiddenApi : container.data.hiddenApi.entry.kind = .hiddenApi := rfl
  obtain ⟨readCount, readsCount, -⟩ := exists_natAt_of_holds count
  rw [readSection, bind_of_ok kind]
  dsimp only
  rw [bind_of_ok readsCount, bind_of_ok (natAt_of_holds (by omega) start), SectionKind.toNat_code,
    isHiddenApi, if_neg (by decide), if_neg (by decide), if_pos rfl,
    bind_of_ok (natAt_of_holds (by omega) length), bind_of_ok (bytesAt_of_holds held)]
  simp [SectionKind.apply, present, pure, Except.pure]

/-- Every section that the map lists is read as it should be, if the hidden-API section is. -/
theorem readAs_sections
    (written : container.WrittenIn image)
    (fits : image.size < 4294967296)
    (brief : ∀ handle ∈ container.methodHandles, handle.target.toNat < 65536)
    {reread : Option Bytes}
    (hiddenApi :
      container.hiddenApi.isSome →
        container.data.hiddenApi.entry.ReadAs image { container with hiddenApi := reread })
    {entry : Section}
    (member : entry ∈ container.sections container.data) :
    entry.ReadAs image { container with hiddenApi := reread } := by
  obtain ⟨front, middle, back, sections, ignored⟩ := container.exists_sections_eq
  rw [sections] at member
  simp only [List.mem_append, List.mem_filter, List.mem_cons, List.not_mem_nil, or_false,
    decide_eq_true_eq] at member ignored
  rcases member with (((front | ⟨rfl | rfl, -⟩) | middle) | ⟨rfl, nonzero⟩) | back
  · exact Section.readAs_of_ignored (ignored entry (.inl (.inl front)))
  · exact written.readAs_callSites fits rfl written.tables.callSites
  · exact readAs_methodHandles fits brief rfl written.tables.methodHandles
  · exact Section.readAs_of_ignored (ignored entry (.inl (.inr middle)))
  · apply hiddenApi
    rw [container.count_hiddenApi] at nonzero
    cases present : container.hiddenApi with
    | none =>
        simp [present] at nonzero
    | some blob =>
        rfl
  · exact Section.readAs_of_ignored (ignored entry (.inr back))

end Container.WrittenIn

/-- Reading listed sections makes of a container what each of them makes of it in turn. -/
theorem readSections_of_holds
    {image : Bytes}
    {whole : Container}
    {sections : List Section}
    (each : ∀ entry ∈ sections, entry.ReadAs image whole)
    {offset : Nat}
    (held : Holds image offset (sections.flatMap Section.bytes))
    (container : Container) :
    readSections image sections.length offset container =
      .ok (sections.foldl (fun container entry => entry.kind.apply whole container) container) := by
  induction sections generalizing offset container with
  | nil =>
      rfl
  | cons entry rest inductionHypothesis =>
      rw [List.flatMap_cons] at held
      have read := each entry (by simp) container offset held.left
      have behind := held.right
      have width : entry.bytes.length = 12 := by simp [Section.bytes]
      rw [width] at behind
      rw [List.length_cons, readSections_succ, bind_of_ok read, List.foldl_cons]
      exact inductionHypothesis (fun other member => each other (by simp [member])) behind _

namespace Container

/-- The container with the parts that only the map leads to. -/
def withSections (pools whole : Container) : Container :=
  { pools with
    callSites := whole.callSites
    methodHandles := whole.methodHandles
    hiddenApi := whole.hiddenApi }

theorem foldl_apply_of_ignored
    {whole : Container}
    {sections : List Section}
    (ignored : ∀ entry ∈ sections, entry.kind.mapOnly = false)
    (container : Container) :
    sections.foldl (fun container entry => entry.kind.apply whole container) container =
      container := by
  induction sections with
  | nil =>
      rfl
  | cons entry rest inductionHypothesis =>
      rw [List.foldl_cons, SectionKind.apply_of_ignored (ignored entry (by simp))]
      exact inductionHypothesis fun other member => ignored other (by simp [member])

/-- All listed sections together make a container of the pools one with all parts. -/
theorem foldl_apply_sections
    (container whole : Container)
    {pools : Container}
    (sameSites : whole.callSites = container.callSites)
    (sameHandles : whole.methodHandles = container.methodHandles)
    (samePresence : whole.hiddenApi.isSome = container.hiddenApi.isSome)
    (noCallSites : pools.callSites = [])
    (noHandles : pools.methodHandles = [])
    (noHiddenApi : pools.hiddenApi = none) :
    (container.sections container.data).foldl
        (fun container entry => entry.kind.apply whole container) pools =
      pools.withSections whole := by
  obtain ⟨front, middle, back, sections, ignored⟩ := container.exists_sections_eq
  simp only [List.mem_append] at ignored
  rw [sections]
  simp only [List.foldl_append, List.foldl_filter,
    foldl_apply_of_ignored fun entry member => ignored entry (.inl (.inl member)),
    foldl_apply_of_ignored fun entry member => ignored entry (.inl (.inr member)),
    foldl_apply_of_ignored fun entry member => ignored entry (.inr member)]
  simp only [List.foldl_cons, List.foldl_nil, callSiteSection, methodHandleSection,
    container.count_hiddenApi, show container.data.hiddenApi.entry.kind = .hiddenApi from rfl,
    SectionKind.apply, ← sameSites, ← sameHandles]
  cases pools
  dsimp only at noCallSites noHandles noHiddenApi
  subst noCallSites noHandles noHiddenApi
  cases sites : whole.callSites <;> cases handles : whole.methodHandles <;>
    cases blob : whole.hiddenApi <;> cases other : container.hiddenApi <;>
      simp [withSections, sites, handles, blob, other] at samePresence ⊢

end Container

end DexPatch
