import Mathlib.Data.List.Forall2
import DexPatch.Proofs.Bodies
import DexPatch.Proofs.Regions

namespace DexPatch

/-!
# The items of an image

An image is made of items, those of one kind behind one another.  Laying them
out puts every item behind the one before it, the items of some kinds at
multiples of four, and tells of each kind where its first item is and how many
there are.
-/

/-! ## Items -/

/-- Some bytes and the offset at which they stand. -/
structure Item where
  offset : Nat
  bytes : List UInt8

/-- The items of one kind. -/
structure Region where
  kind : SectionKind
  items : List Item

namespace Region

/-- The offset of the first item, and zero if there is none. -/
def start (region : Region) : Nat := (region.items.head?.map Item.offset).getD 0

/-- What the map says of a region. -/
def entry (region : Region) : Section :=
  { kind := region.kind, count := region.items.length, offset := region.start }

/-- The section tells how many items the region has and, if it has any, where they start. -/
structure ListedAs (region : Region) (entry : Section) : Prop where
  kind : entry.kind = region.kind
  count : entry.count = region.items.length
  offset : region.items ≠ [] → entry.offset = region.start

/-- The regions that are not empty. -/
def present (regions : List Region) : List Region :=
  regions.filter fun region => !region.items.isEmpty

/-- Listing the sections that are not empty lists the regions that are not. -/
theorem filter_eq_map_entry
    {regions : List Region}
    {sections : List Section}
    (listed : List.Forall₂ ListedAs regions sections) :
    sections.filter (fun entry => entry.count ≠ 0) = (present regions).map entry := by
  induction listed with
  | nil =>
      rfl
  | @cons region head regions sections first _ inductionHypothesis =>
      rw [present, List.filter_cons, List.filter_cons, inductionHypothesis, present]
      by_cases empty : region.items = []
      · simp [first.count, empty]
      · have shape : head = region.entry := by
          obtain ⟨kind, count, offset⟩ := head
          rw [entry, ← first.offset empty, ← first.kind, ← first.count]
        have counted : region.entry.count ≠ 0 := by simpa [entry] using empty
        simp [shape, empty, counted]

/-- A region starts where its first item does, if its section tells so. -/
theorem ListedAs.start_eq
    {region : Region}
    {entry : Section}
    (listed : region.ListedAs entry) :
    (if entry.count = 0 then 0 else entry.offset) = region.start := by
  rw [listed.count]
  by_cases empty : region.items = []
  · rw [start, empty]
    rfl
  · rw [if_neg fun zero => empty (List.length_eq_zero_iff.mp zero), listed.offset empty]

/-- The section at the place of a region tells of it. -/
theorem ListedAs.getElem?
    {regions : List Region}
    {sections : List Section}
    (listed : List.Forall₂ ListedAs regions sections)
    {i : Nat}
    {region : Region}
    (found : regions[i]? = some region) :
    ∃ entry, sections[i]? = some entry ∧ region.ListedAs entry := by
  obtain ⟨inside, rfl⟩ := List.getElem?_eq_some_iff.mp found
  obtain ⟨sameLength, each⟩ := List.forall₂_iff_get.mp listed
  have bound : i < sections.length := sameLength ▸ inside
  exact ⟨sections[i], List.getElem?_eq_getElem bound, each i inside bound⟩

/-- The sections tell how many items each region has. -/
theorem ListedAs.map_count
    {regions : List Region}
    {sections : List Section}
    (listed : List.Forall₂ ListedAs regions sections) :
    regions.map (fun region => region.items.length) = sections.map Section.count := by
  induction listed with
  | nil =>
      rfl
  | cons first _ inductionHypothesis =>
      rw [List.map_cons, List.map_cons, inductionHypothesis, first.count]

/-- The starts of the regions with items are among the offsets of all items, in order. -/
theorem starts_sublist (regions : List Region) :
    ((present regions).map start).Sublist ((regions.flatMap items).map Item.offset) := by
  induction regions with
  | nil =>
      exact .slnil
  | cons region rest inductionHypothesis =>
      obtain ⟨kind, items⟩ := region
      rw [List.flatMap_cons, List.map_append]
      cases items with
      | nil =>
          exact inductionHypothesis
      | cons item items =>
          exact .cons_cons _ (inductionHypothesis.trans (List.sublist_append_right _ _))

end Region

/-- The unit at whose multiples the items of a kind stand. -/
def SectionKind.unit : SectionKind → Nat
  | .typeLists | .annotationSets | .annotationSetRefLists | .annotationDirectories | .bodies
  | .hiddenApi | .mapList => 4
  | _ => 1

theorem SectionKind.unit_eq (kind : SectionKind) : kind.unit = 1 ∨ kind.unit = 4 := by
  cases kind <;> decide

theorem SectionKind.unit_pos (kind : SectionKind) : 0 < kind.unit := by
  rcases kind.unit_eq with unit | unit <;> omega

/-! ## Items behind one another -/

/-- The offset is behind where something stops, with at most the padding to a multiple of four
between them. -/
def Behind (stop offset : Nat) : Prop := stop ≤ offset ∧ offset ≤ stop + padding 4 stop

theorem Behind.refl (offset : Nat) : Behind offset offset :=
  ⟨Nat.le_refl _, Nat.le_add_right _ _⟩

theorem Behind.trans
    {first second third : Nat}
    (early : Behind first second)
    (late : Behind second third) :
    Behind first third := by
  unfold Behind padding at *
  omega

/-- Aligning a layout for items of a kind puts its end behind where it was. -/
theorem Layout.behind_align (layout : Layout) (kind : SectionKind) :
    Behind layout.position (layout.align kind.unit).position := by
  rw [position_align, Behind]
  rcases kind.unit_eq with unit | unit
  · rw [unit]
    simp [padding, Nat.mod_one]
  · rw [unit]
    omega

/-- The items stand between two offsets, each behind the one before it and the last in front of
the later offset, with nothing but padding between them. -/
def Chained : (start : Nat) → List Item → (stop : Nat) → Prop
  | start, [], stop => Behind start stop
  | start, item :: rest, stop =>
    Behind start item.offset ∧ Chained (item.offset + item.bytes.length) rest stop

namespace Chained

variable {start middle stop : Nat} {items : List Item}

theorem le (chained : Chained start items stop) : start ≤ stop := by
  induction items generalizing start with
  | nil =>
      exact chained.1
  | cons item rest inductionHypothesis =>
      have later := inductionHypothesis chained.2
      have first := chained.1.1
      omega

theorem of_behind
    (behind : Behind middle start)
    (chained : Chained start items stop) :
    Chained middle items stop := by
  cases items with
  | nil =>
      exact behind.trans chained
  | cons item rest =>
      exact ⟨behind.trans chained.1, chained.2⟩

/-- What stands behind other items can be joined to them. -/
theorem append
    {more : List Item}
    (chained : Chained start items middle)
    (behind : Chained middle more stop) :
    Chained start (items ++ more) stop := by
  induction items generalizing start with
  | nil =>
      exact behind.of_behind chained
  | cons item rest inductionHypothesis =>
      exact ⟨chained.1, inductionHypothesis chained.2⟩

/-- Every item stands behind the start. -/
theorem le_offset
    (chained : Chained start items stop)
    {item : Item}
    (member : item ∈ items) :
    start ≤ item.offset := by
  induction items generalizing start with
  | nil =>
      cases member
  | cons first rest inductionHypothesis =>
      rcases List.mem_cons.mp member with rfl | later
      · exact chained.1.1
      · have behind := inductionHypothesis chained.2 later
        have front := chained.1.1
        omega

/-- Items that are not empty stand at ascending offsets. -/
theorem pairwise_offsets
    (chained : Chained start items stop)
    (filled : ∀ item ∈ items, item.bytes ≠ []) :
    (items.map Item.offset).Pairwise (· < ·) := by
  induction items generalizing start with
  | nil =>
      exact .nil
  | cons item rest inductionHypothesis =>
      obtain ⟨itemFilled, restFilled⟩ := List.forall_mem_cons.mp filled
      refine List.pairwise_cons.mpr ⟨?_, inductionHypothesis chained.2 restFilled⟩
      refine List.forall_mem_map.mpr fun other member => ?_
      have behind := chained.2.le_offset member
      have length := List.length_pos_iff.mpr itemFilled
      omega

/-- There are no more items than bytes between the offsets. -/
theorem length_le
    (chained : Chained start items stop)
    (filled : ∀ item ∈ items, item.bytes ≠ []) :
    start + items.length ≤ stop := by
  induction items generalizing start with
  | nil =>
      exact chained.1
  | cons item rest inductionHypothesis =>
      obtain ⟨itemFilled, restFilled⟩ := List.forall_mem_cons.mp filled
      have later := inductionHypothesis chained.2 restFilled
      have first := chained.1.1
      have length := List.length_pos_iff.mpr itemFilled
      rw [List.length_cons]
      omega

end Chained

/-- Regions that stand in an image between two offsets, with the sections that tell of them. -/
structure RegionsHeld
    (image : Bytes)
    (start : Nat)
    (regions : List Region)
    (sections : List Section)
    (stop : Nat) :
    Prop where
  chained : Chained start (regions.flatMap Region.items) stop
  held : ∀ region ∈ regions, ∀ item ∈ region.items, Holds image item.offset item.bytes
  aligned : ∀ region ∈ regions, ∀ item ∈ region.items, item.offset % region.kind.unit = 0
  listed : List.Forall₂ Region.ListedAs regions sections

/-- Regions behind others stand there together with them. -/
theorem RegionsHeld.append
    {image : Bytes}
    {start middle stop : Nat}
    {regions more : List Region}
    {sections others : List Section}
    (first : RegionsHeld image start regions sections middle)
    (second : RegionsHeld image middle more others stop) :
    RegionsHeld image start (regions ++ more) (sections ++ others) stop where
  chained := List.flatMap_append ▸ first.chained.append second.chained
  held := List.forall_mem_append.mpr ⟨first.held, second.held⟩
  aligned := List.forall_mem_append.mpr ⟨first.aligned, second.aligned⟩
  listed := List.rel_append first.listed second.listed

/-- One region stands in an image with the section that tells of it. -/
theorem RegionsHeld.single
    {image : Bytes}
    {start stop : Nat}
    {region : Region}
    {entry : Section}
    (chained : Chained start region.items stop)
    (held : ∀ item ∈ region.items, Holds image item.offset item.bytes)
    (aligned : ∀ item ∈ region.items, item.offset % region.kind.unit = 0)
    (listed : region.ListedAs entry) :
    RegionsHeld image start [region] [entry] stop where
  chained := by simpa using chained
  held := by simpa using held
  aligned := by simpa using aligned
  listed := .cons listed .nil

/-! ## Pieces -/

/-- The pieces that are there, each at its offset. -/
def Region.ofPieces
    (kind : SectionKind)
    (pieces : List (Option (List UInt8)))
    (offsets : List Nat) :
    Region where
  kind := kind
  items := (List.zip pieces offsets).filterMap fun (piece, offset) => piece.map (Item.mk offset)

namespace Region

variable {kind : SectionKind} {pieces : List (Option (List UInt8))} {offsets : List Nat}

/-- The items are the pieces that are there. -/
theorem bytes_ofPieces (sameLength : offsets.length = pieces.length) :
    (ofPieces kind pieces offsets).items.map Item.bytes = pieces.filterMap id := by
  induction pieces generalizing offsets with
  | nil =>
      rfl
  | cons piece pieces inductionHypothesis =>
      obtain ⟨offset, offsets, rfl⟩ := List.exists_cons_of_length_eq_add_one sameLength
      have rest := inductionHypothesis (Nat.succ.inj sameLength)
      cases piece with
      | none =>
          exact rest
      | some piece =>
          exact congrArg (List.cons piece) rest

theorem length_ofPieces (sameLength : offsets.length = pieces.length) :
    (ofPieces kind pieces offsets).items.length = (pieces.filterMap id).length := by
  rw [← bytes_ofPieces sameLength, List.length_map]

end Region

/-! ## Stages -/

namespace Layout

/-- Placing pieces of a kind chains them behind the layout, the first of them where the layout
ends when it is aligned. -/
theorem foldl_placeOne_chained
    (kind : SectionKind)
    (pieces : List (Option (List UInt8)))
    (layout : Layout)
    (offsets : Array Nat) :
    ∃ (later : Layout) (added : List Nat),
      pieces.foldl (placeOne kind.unit) (layout, offsets) = (later, offsets ++ added) ∧
        Chained layout.position (Region.ofPieces kind pieces added).items later.position ∧
        (∀ item ∈ (Region.ofPieces kind pieces added).items, item.offset % kind.unit = 0) ∧
        ((Region.ofPieces kind pieces added).items ≠ [] →
          (Region.ofPieces kind pieces added).start = (layout.align kind.unit).position) := by
  induction pieces generalizing layout offsets with
  | nil =>
      exact ⟨layout, [], by simp, Behind.refl _, nofun, fun present => absurd rfl present⟩
  | cons piece rest inductionHypothesis =>
      cases piece with
      | none =>
          obtain ⟨later, added, steps, chained⟩ := inductionHypothesis layout (offsets.push 0)
          refine ⟨later, 0 :: added, ?_, chained⟩
          rw [List.foldl_cons, placeOne, steps]
          simp
      | some piece =>
          -- this piece is the first item, so where the rest starts is of no use
          obtain ⟨later, added, steps, chained, aligned, -⟩ :=
            inductionHypothesis ((layout.align kind.unit).append piece)
              (offsets.push (layout.align kind.unit).position)
          refine ⟨later, (layout.align kind.unit).position :: added, ?_, ?_, ?_, fun _ => rfl⟩
          · rw [List.foldl_cons, placeOne, steps]
            simp
          · rw [position_append] at chained
            exact ⟨layout.behind_align kind, chained⟩
          · exact List.forall_mem_cons.mpr
              ⟨layout.position_align_mod kind.unit_pos, aligned⟩

/-- A layout leads to a later one with some regions between their ends. -/
structure Leads
    (layout : Layout)
    (regions : List Region)
    (sections : List Section)
    (later : Layout) :
    Prop where
  extension : layout.Extends later
  regions :
    ∀ image,
      later.Within image →
        RegionsHeld image layout.position regions sections later.position

theorem Leads.trans
    {first second third : Layout}
    {regions more : List Region}
    {sections others : List Section}
    (early : first.Leads regions sections second)
    (late : second.Leads more others third) :
    first.Leads (regions ++ more) (sections ++ others) third where
  extension := early.extension.trans late.extension
  regions image within :=
    (early.regions image (within.of_extends late.extension)).append (late.regions image within)

/-- A stage leads to its layout with the region of its pieces. -/
theorem leads_stage
    (layout : Layout)
    (kind : SectionKind)
    (pieces : List (Option (List UInt8)))
    {stage : Stage}
    (made : stage = layout.stage kind kind.unit pieces) :
    layout.Leads [.ofPieces kind pieces stage.offsets] [stage.entry] stage.layout := by
  obtain ⟨extension, placed⟩ := Stage.spec made
  refine ⟨extension, fun image within => ?_⟩
  obtain ⟨later, added, steps, chained, aligned, first⟩ :=
    foldl_placeOne_chained kind pieces (layout.align kind.unit) #[]
  have placing : (layout.align kind.unit).place kind.unit pieces = (later, added) := by
    rw [place, steps]
    simp
  rw [Layout.stage, placing] at made
  subst made
  refine .single (chained.of_behind (layout.behind_align kind)) ?_ aligned ?_
  · intro item member
    obtain ⟨⟨piece, offset⟩, beside, shape⟩ := List.mem_filterMap.mp member
    obtain ⟨bytes, rfl, rfl⟩ := Option.map_eq_some_iff.mp shape
    exact (placed.holds within beside).2
  · refine ⟨rfl, (Region.length_ofPieces placed.1).symm, fun present => ?_⟩
    -- the stage is aligned before its first piece is, and that changes nothing more
    rw [first present, layout.position_align_align kind.unit_pos]

end Layout

/-! ## Tables -/

/-- Entries that stand one behind the other from an offset on. -/
def Region.ofEntries (kind : SectionKind) (offset : Nat) (entries : List (List UInt8)) : Region :=
  .ofPieces kind (entries.map some) (HandlerList.startsFrom offset entries)

/-- Tables that stand one behind the other. -/
def tableRegions : (offset : Nat) → List (SectionKind × List (List UInt8)) → List Region
  | _, [] => []
  | offset, (kind, entries) :: rest =>
    .ofEntries kind offset entries :: tableRegions (offset + entries.flatten.length) rest

namespace Region

variable {kind : SectionKind} {offset : Nat} {entries : List (List UInt8)}

theorem bytes_ofEntries : (ofEntries kind offset entries).items.map Item.bytes = entries := by
  have sameLength :
      (HandlerList.startsFrom offset entries).length = (entries.map some).length := by
    rw [HandlerList.length_startsFrom, List.length_map]
  rw [ofEntries, bytes_ofPieces sameLength]
  simp

theorem chained_ofEntries :
    Chained offset (ofEntries kind offset entries).items (offset + entries.flatten.length) := by
  induction entries generalizing offset with
  | nil =>
      exact Behind.refl _
  | cons entry rest inductionHypothesis =>
      refine ⟨Behind.refl _, ?_⟩
      have later := @inductionHypothesis (offset + entry.length)
      rwa [List.flatten_cons, List.length_append, ← Nat.add_assoc]

theorem holds_ofEntries
    {image : Bytes}
    (held : Holds image offset entries.flatten) :
    ∀ item ∈ (ofEntries kind offset entries).items, Holds image item.offset item.bytes := by
  induction entries generalizing offset with
  | nil =>
      exact nofun
  | cons entry rest inductionHypothesis =>
      rw [List.flatten_cons] at held
      exact List.forall_mem_cons.mpr ⟨held.left, inductionHypothesis held.right⟩

/-- A table tells of its entries. -/
theorem listedAs_ofEntries :
    (ofEntries kind offset entries).ListedAs { kind, count := entries.length, offset } where
  kind := rfl
  count := (congrArg List.length (@bytes_ofEntries kind offset entries)).symm.trans
    (List.length_map _)
  offset present := by
    cases entries with
    | nil => exact absurd rfl present
    | cons entry rest => rfl

end Region

theorem length_flatten_of_width
    {pieces : List (List UInt8)}
    {width : Nat}
    (wide : ∀ piece ∈ pieces, piece.length = width) :
    pieces.flatten.length = pieces.length * width := by
  rw [List.length_flatten, List.map_congr_left wide]
  simp

/-- The entries of a table are as many and as long as is told of it. -/
structure Tabulated
    (table : SectionKind × Nat × Nat)
    (entries : SectionKind × List (List UInt8)) :
    Prop where
  kind : table.1 = entries.1
  count : table.2.1 = entries.2.length
  width : ∀ entry ∈ entries.2, entry.length = table.2.2
  unit : entries.1.unit = 1

/-- Tables stand where their sections say that they do. -/
theorem regionsHeld_tables
    {image : Bytes}
    {tables : List (SectionKind × Nat × Nat)}
    {entries : List (SectionKind × List (List UInt8))}
    (tabulated : List.Forall₂ Tabulated tables entries)
    {offset : Nat}
    (held : Holds image offset (entries.flatMap (·.2)).flatten) :
    RegionsHeld image offset (tableRegions offset entries) (Container.tableSections offset tables)
      (offset + (entries.flatMap (·.2)).flatten.length) := by
  induction tabulated generalizing offset with
  | nil =>
      exact ⟨Behind.refl _, nofun, nofun, .nil⟩
  | @cons table entries tables others first _ inductionHypothesis =>
      obtain ⟨kind, pieces⟩ := entries
      obtain ⟨tableKind, count, width⟩ := table
      obtain ⟨sameKind, sameCount, wide, unit⟩ := first
      dsimp only at sameKind sameCount wide unit
      subst sameKind sameCount
      rw [List.flatMap_cons, List.flatten_append] at held ⊢
      have later := inductionHypothesis held.right
      rw [List.length_append, ← Nat.add_assoc, Container.tableSections,
        ← length_flatten_of_width wide]
      refine RegionsHeld.append (.single Region.chained_ofEntries
        (Region.holds_ofEntries held.left) (fun item _ => ?_) Region.listedAs_ofEntries) later
      rw [show (Region.ofEntries tableKind offset pieces).kind.unit = 1 from unit, Nat.mod_one]

end DexPatch
