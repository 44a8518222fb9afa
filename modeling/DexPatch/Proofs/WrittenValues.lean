import DexPatch.Image.ValueWriter
import DexPatch.Proofs.Rewriting
import DexPatch.Proofs.ShortestValues

namespace DexPatch

/-!
# Values written under new numbers

Writing a value under new numbers looks up what the value refers to, and if
all of it has new numbers, writes what the renumbered value is written as once
its elements are in order.  So a value that is written is read back renumbered
and in order, and from no fewer bytes.
-/

/-! ## Looking references up -/

namespace NewNumbers

/-- The computation looks the references up one after the other, and if all have new numbers, gives
the result. -/
def Resolves {α : Type} (numbers : NewNumbers) (refs : List Reference) (result : α)
    (computation : Except EncodeError α) : Prop :=
  computation = refs.forM numbers.checkOperand >>= fun _ => .ok result

namespace Resolves

variable {numbers : NewNumbers} {α β : Type}

theorem done (result : α) : numbers.Resolves [] result (pure result) :=
  rfl

/-- A chain looks up what its first link does, and then what its rest does with the result of it. -/
theorem bind
    {refs more : List Reference}
    {between : α}
    {result : β}
    {first : Except EncodeError α}
    {next : α → Except EncodeError β}
    (resolvesFirst : numbers.Resolves refs between first)
    (resolvesNext : numbers.Resolves more result (next between)) :
    numbers.Resolves (refs ++ more) result (first >>= next) := by
  rw [Resolves] at resolvesFirst resolvesNext ⊢
  rw [resolvesFirst, forM_append, bind_assoc, bind_assoc]
  refine congrArg _ (funext fun _ => ?_)
  rw [← resolvesNext]
  rfl

/-- What is made of a result looks nothing up. -/
theorem map
    {refs : List Reference}
    {between : α}
    {first : Except EncodeError α}
    (resolves : numbers.Resolves refs between first)
    (change : α → β) :
    numbers.Resolves refs (change between) (first >>= fun x => pure (change x)) := by
  have resolvesAll :
      numbers.Resolves (refs ++ []) (change between) (first >>= fun x => pure (change x)) :=
    resolves.bind (done (change between))
  rwa [List.append_nil] at resolvesAll

theorem lookUp (pool : Pool) (index : UInt32) :
    numbers.Resolves [.long pool index] (numbers.total pool index) (numbers.lookUp pool index) := by
  rw [Resolves, forM_singleton, checkOperand, NewNumbers.lookUp, total, Reference.long]
  cases numbers pool index <;> rfl

/-- Computations for the elements of a list look up what they do one after the other. -/
theorem mapM
    {list : List α}
    {refs : α → List Reference}
    {result : α → β}
    {computation : α → Except EncodeError β}
    (each : ∀ x ∈ list, numbers.Resolves (refs x) (result x) (computation x)) :
    numbers.Resolves (list.flatMap refs) (list.map result) (list.mapM computation) := by
  induction list with
  | nil =>
      exact done []
  | cons x rest inductionHypothesis =>
      obtain ⟨first, others⟩ := List.forall_mem_cons.mp each
      rw [List.flatMap_cons, List.map_cons, List.mapM_cons]
      exact first.bind ((inductionHypothesis others).map _)

/-- If all references have new numbers, the result is given. -/
theorem eq_ok
    {refs : List Reference}
    {result : α}
    {computation : Except EncodeError α}
    (resolves : numbers.Resolves refs result computation)
    (covers : ∀ ref ∈ refs, numbers.Renumbers ref) :
    computation = .ok result := by
  have checked : refs.forM numbers.checkOperand = .ok () :=
    forM_eq_ok_iff.mpr fun ref member => checkOperand_eq_ok_iff.mpr (covers ref member)
  rw [resolves, bind_of_ok checked]

end Resolves

end NewNumbers

/-! ## What a value looks up -/

namespace Value

mutual

/-- The references of a value in the order in which they are looked up, where the elements of an
annotation come in the order of the new numbers of their names. -/
def lookUps (f : RefMap) : Value → List Reference
  | .array items => lookUpsItems f items
  | .annotated index elements =>
    let parts := lookUpsElements f elements
    parts.map (fun (name, _) => .long .string name) ++ .long .type index ::
      (sortOn (fun part => f .string part.1) parts).flatMap (·.2)
  | value => value.refs

/-- The references of a list of values in the order in which they are looked up. -/
def lookUpsItems (f : RefMap) : List Value → List Reference
  | [] => []
  | item :: rest => item.lookUps f ++ lookUpsItems f rest

/-- The names of named values, each with what its value looks up. -/
def lookUpsElements (f : RefMap) : List (UInt32 × Value) → List (UInt32 × List Reference)
  | [] => []
  | (name, value) :: rest => (name, value.lookUps f) :: lookUpsElements f rest

end

variable {f : RefMap}

theorem lookUpsItems_eq (items : List Value) :
    lookUpsItems f items = items.flatMap (lookUps f) := by
  induction items with
  | nil =>
      rfl
  | cons item rest inductionHypothesis =>
      simp [lookUpsItems, inductionHypothesis]

theorem lookUpsElements_eq (elements : List (UInt32 × Value)) :
    lookUpsElements f elements = elements.map fun element => (element.1, element.2.lookUps f) := by
  induction elements with
  | nil =>
      rfl
  | cons element rest inductionHypothesis =>
      simp [lookUpsElements, inductionHypothesis]

/-- Elements in the order of the new numbers of their names. -/
def newOrder (f : RefMap) (elements : List (UInt32 × Value)) : List (UInt32 × Value) :=
  sortOn (fun element => f .string element.1) elements

theorem mem_newOrder
    {elements : List (UInt32 × Value)}
    {element : UInt32 × Value} :
    element ∈ newOrder f elements ↔ element ∈ elements :=
  mem_sortOn

/-- An annotation looks up its names, then its type, and then what its elements refer to, in their
new order. -/
theorem lookUps_annotated (index : UInt32) (elements : List (UInt32 × Value)) :
    (annotated index elements).lookUps f =
      elements.map (fun element => .long .string element.1) ++
        (.long .type index ::
          (newOrder f elements).flatMap fun element => element.2.lookUps f) := by
  rw [lookUps, lookUpsElements_eq, List.map_map,
    sortOn_map (fun element : UInt32 × Value => f .string element.1), List.flatMap_map]
  · rfl
  · exact fun _ => rfl

/-- Renumbered elements that are put in order are those in the new order, renumbered. -/
theorem sortOn_arrangedElements (elements : List (UInt32 × Value)) :
    sortOn (·.1) (arrangedElements (mapRefsElements f elements)) =
      (newOrder f elements).map fun element =>
        (f .string element.1, (element.2.mapRefs f).arranged) := by
  rw [mapRefsElements_eq, arrangedElements_eq, List.map_map]
  exact sortOn_map _ (fun _ => rfl) elements

/-- A value looks up what it refers to. -/
theorem mem_lookUps
    {value : Value}
    {ref : Reference} :
    ref ∈ value.lookUps f ↔ ref ∈ value.refs := by
  induction value using nestedInduction with
  | step value inductionHypothesis =>
      cases value with
      | array items =>
          rw [lookUps, lookUpsItems_eq, mem_refs_array, List.mem_flatMap]
          exact exists_congr fun item => and_congr_right fun member =>
            inductionHypothesis item member
      | annotated index elements =>
          rw [lookUps_annotated, mem_refs_annotated]
          simp only [List.mem_append, List.mem_cons, List.mem_map, List.mem_flatMap, mem_newOrder]
          constructor
          · rintro (⟨element, member, rfl⟩ | isType | ⟨element, member, refers⟩)
            · exact .inr ⟨element, member, .inl rfl⟩
            · exact .inl isType
            · exact .inr ⟨element, member,
                .inr ((inductionHypothesis _ (List.mem_map_of_mem member)).mp refers)⟩
          · rintro (isType | ⟨element, member, named | refers⟩)
            · exact .inr (.inl isType)
            · exact .inl ⟨element, member, named.symm⟩
            · exact .inr (.inr ⟨element, member,
                (inductionHypothesis _ (List.mem_map_of_mem member)).mpr refers⟩)
      | _ =>
          rfl

/-- What is looked up gets the numbers that the renumbered value refers to, in the same order. -/
theorem map_renumber_lookUps (value : Value) :
    (value.lookUps f).map (Reference.renumber f) = (value.mapRefs f).refs := by
  induction value using nestedInduction with
  | step value inductionHypothesis =>
      cases value with
      | array items =>
          rw [lookUps, lookUpsItems_eq, mapRefs, mapRefsItems_eq, refs, refsItems_eq,
            List.map_flatMap, List.flatMap_map]
          exact List.flatMap_congr inductionHypothesis
      | annotated index elements =>
          simp only [lookUps_annotated, mapRefs, refs, mapRefsElements_eq, refsElements_eq,
            List.map_append, List.map_cons, List.map_map, List.map_flatMap]
          rw [sortOn_map (fun element : UInt32 × Value => f .string element.1), List.flatMap_map]
          · refine congrArg _ (congrArg _ (List.flatMap_congr fun element member => ?_))
            exact inductionHypothesis _ (List.mem_map_of_mem (mem_newOrder.mp member))
          · exact fun _ => rfl
      | _ =>
          rfl

/-- Renumbering a value and putting it in order changes no count in it. -/
theorem Countable.renumbered
    {value : Value}
    (countable : value.Countable)
    (f : RefMap) :
    ((value.mapRefs f).arranged).Countable := by
  induction value using nestedInduction with
  | step value inductionHypothesis =>
      obtain ⟨few, inside⟩ := countable
      have each (part : Value) (member : part ∈ value.inner) :=
        inductionHypothesis part member (inside part member)
      cases value with
      | array items =>
          rw [mapRefs, mapRefsItems_eq, arranged, arrangedItems_eq, List.map_map]
          refine .intro (by simpa [inner] using few) fun part member => ?_
          obtain ⟨item, isItem, rfl⟩ := List.mem_map.mp member
          exact each item isItem
      | annotated index elements =>
          rw [mapRefs, arranged, sortOn_arrangedElements]
          have sameLength : (newOrder f elements).length = elements.length :=
            (sortOn_perm _ elements).length_eq
          refine .intro (by simpa [inner, sameLength] using few) fun part member => ?_
          simp only [inner, List.map_map, List.mem_map] at member
          obtain ⟨element, isElement, rfl⟩ := member
          exact each _ (List.mem_map_of_mem (mem_newOrder.mp isElement))
      | _ =>
          exact .intro (by simp [inner, mapRefs, arranged]) (by simp [inner, mapRefs, arranged])

end Value

/-! ## What is written -/

namespace NewNumbers

variable (numbers : NewNumbers)

theorem elementsBytes_eq (elements : List (UInt32 × Value)) :
    numbers.elementsBytes elements =
      elements.map fun element => (element.1, numbers.valueBytes element.2) := by
  induction elements with
  | nil =>
      rfl
  | cons element rest inductionHypothesis =>
      simp [elementsBytes, inductionHypothesis]

/-- The written form of a value that has its new numbers and is in order. -/
def newBytes (value : Value) : List UInt8 :=
  ((value.mapRefs numbers.total).arranged).bytes

variable {numbers}

namespace Resolves

theorem indexBytes (type : Nat) (pool : Pool) (index : UInt32) :
    numbers.Resolves [.long pool index] (unsignedValue type (numbers.total pool index).toNat)
      (numbers.indexBytes type pool index) :=
  (lookUp pool index).map fun number => unsignedValue type number.toNat

/-- The values of a list are written one behind the other. -/
theorem itemsBytes
    {items : List Value}
    (each :
      ∀ item ∈ items,
        numbers.Resolves (item.lookUps numbers.total) (numbers.newBytes item)
          (numbers.valueBytes item)) :
    numbers.Resolves (items.flatMap (Value.lookUps numbers.total))
      (items.flatMap numbers.newBytes) (numbers.itemsBytes items) := by
  induction items with
  | nil =>
      exact done []
  | cons item rest inductionHypothesis =>
      obtain ⟨first, others⟩ := List.forall_mem_cons.mp each
      rw [List.flatMap_cons, List.flatMap_cons, NewNumbers.itemsBytes]
      exact first.bind ((inductionHypothesis others).map _)

/-- The elements of an annotation are written in their new order. -/
theorem annotationBytes
    (type : UInt32)
    {elements : List (UInt32 × Value)}
    (each :
      ∀ part ∈ elements.map (·.2),
        numbers.Resolves (part.lookUps numbers.total) (numbers.newBytes part)
          (numbers.valueBytes part)) :
    numbers.Resolves ((Value.annotated type elements).lookUps numbers.total)
      (numbers.newBytes (.annotated type elements)).tail
      (numbers.annotationBytes type (numbers.elementsBytes elements)) := by
  have names :
      numbers.Resolves (elements.flatMap fun element => [.long .string element.1])
        (elements.map fun element =>
          (numbers.total .string element.1, numbers.valueBytes element.2))
        ((numbers.elementsBytes elements).mapM fun element => do
          return (← numbers.lookUp .string element.1, element.2)) := by
    rw [elementsBytes_eq, List.mapM_map]
    exact mapM fun element _ => (lookUp .string element.1).map _
  have values :
      numbers.Resolves
        ((Value.newOrder numbers.total elements).flatMap fun element =>
          element.2.lookUps numbers.total)
        ((Value.newOrder numbers.total elements).map fun element =>
          Leb128.unsigned (numbers.total .string element.1) ++ numbers.newBytes element.2)
        ((sortOn (·.1) (elements.map fun element =>
            (numbers.total .string element.1, numbers.valueBytes element.2))).mapM
          fun element => do return Leb128.unsigned element.1 ++ (← element.2)) := by
    have sorted :
        sortOn (·.1) (elements.map fun element =>
            (numbers.total .string element.1, numbers.valueBytes element.2)) =
          (Value.newOrder numbers.total elements).map fun element =>
            (numbers.total .string element.1, numbers.valueBytes element.2) :=
      sortOn_map _ (fun _ => rfl) elements
    rw [sorted, List.mapM_map]
    refine mapM fun element member => ?_
    exact (each _ (List.mem_map_of_mem (Value.mem_newOrder.mp member))).map _
  have written :
      (numbers.newBytes (.annotated type elements)).tail =
        Leb128.unsigned (numbers.total .type type) ++
            Leb128.unsigned (UInt32.ofNat (numbers.elementsBytes elements).length) ++
          ((Value.newOrder numbers.total elements).map fun element =>
            Leb128.unsigned (numbers.total .string element.1) ++
              numbers.newBytes element.2).flatten := by
    have sameLength : (Value.newOrder numbers.total elements).length = elements.length :=
      (sortOn_perm _ elements).length_eq
    simp only [newBytes, Value.mapRefs, Value.arranged, Value.sortOn_arrangedElements, Value.bytes,
      Value.bytesOfElements_eq, elementsBytes_eq, List.length_map, sameLength, List.flatMap_map,
      List.cons_append, List.tail_cons, ← List.flatMap_def]
  rw [Value.lookUps_annotated, List.map_eq_flatMap, written]
  exact names.bind ((lookUp .type type).bind (values.map _))

end Resolves

/-- Writing a value looks up what it refers to, and gives the written form of the renumbered value
that is in order. -/
theorem resolves_valueBytes (value : Value) :
    numbers.Resolves (value.lookUps numbers.total) (numbers.newBytes value)
      (numbers.valueBytes value) := by
  induction value using Value.nestedInduction with
  | step value inductionHypothesis =>
      cases value with
      | array items =>
          have written :
              numbers.newBytes (.array items) =
                0x1c :: Leb128.unsigned (UInt32.ofNat items.length) ++
                  items.flatMap numbers.newBytes := by
            simp only [newBytes, Value.mapRefs, Value.mapRefsItems_eq, Value.arranged,
              Value.arrangedItems_eq, Value.bytes, Value.bytesOfItems_eq, List.length_map,
              List.flatMap_map]
            rfl
          rw [Value.lookUps, Value.lookUpsItems_eq, written]
          exact (Resolves.itemsBytes inductionHypothesis).map _
      | annotated index elements =>
          exact (Resolves.annotationBytes index inductionHypothesis).map (0x1d :: ·)
      | methodType index => exact Resolves.indexBytes _ _ _
      | methodHandle index => exact Resolves.indexBytes _ _ _
      | string index => exact Resolves.indexBytes _ _ _
      | type index => exact Resolves.indexBytes _ _ _
      | field index => exact Resolves.indexBytes _ _ _
      | method index => exact Resolves.indexBytes _ _ _
      | enum index => exact Resolves.indexBytes _ _ _
      | _ => exact Resolves.done _

/-- A value whose references all have new numbers is written, and what is written is read back as
the value with its references renumbered and the elements of its annotations in their new order,
those of one name in their old one.  Nothing that is read as the same value takes fewer bytes, so
the payload behind the first byte of a number is the shortest from which it is read. -/
theorem readsShortest_valueBytes
    (numbers : NewNumbers)
    {value : Value}
    (countable : value.Countable)
    (covers : ∀ ref ∈ value.refs, numbers.Renumbers ref) :
    ∃ written,
      numbers.valueBytes value = .ok written ∧
        Cursor.ReadsShortest readValue written ((value.mapRefs numbers.total).arranged) := by
  refine ⟨numbers.newBytes value, ?_, ?_, ?_⟩
  · exact (resolves_valueBytes value).eq_ok fun ref member =>
      covers ref (Value.mem_lookUps.mp member)
  · exact (Value.reads_of_countable (countable.renumbered numbers.total)).between
  · exact fun data position stop read => (Value.takes_readValue data read).1

/-- Two entries of each pool, exchanged. -/
def exchanged : NewNumbers := fun _ index => if index < 2 then some (1 - index) else none

/-- An annotation whose elements change places, with a list in one of them. -/
theorem readsShortest_valueBytes_exchanged :
    let value := Value.annotated 0 [(0, .int (-129)), (1, .array [.float 0x3f800000, .type 1])]
    value.Countable ∧
      (∀ ref ∈ value.refs, exchanged.Renumbers ref) ∧
        ∃ written,
          exchanged.valueBytes value = .ok written ∧
            written =
              [0x1d, 1, 2, 0, 0x1c, 2, 0x30, 0x80, 0x3f, 0x18, 0, 1, 0x24, 0x7f, 0xff] ∧
            Cursor.ReadsShortest readValue written
              (.annotated 1 [(0, .array [.float 0x3f800000, .type 0]), (1, .int (-129))]) := by
  intro value
  have countable : value.Countable := value.countable_of_length (by decide)
  have checked : value.refs.forM exchanged.checkOperand = .ok () := by cbv
  have covers : ∀ ref ∈ value.refs, exchanged.Renumbers ref := fun ref member =>
    checkOperand_eq_ok_iff.mp (forM_eq_ok_iff.mp checked ref member)
  obtain ⟨written, writes, reads⟩ := readsShortest_valueBytes exchanged countable covers
  refine ⟨countable, covers, written, writes, ?_, ?_⟩
  · have writesOut :
        exchanged.valueBytes value =
          .ok [0x1d, 1, 2, 0, 0x1c, 2, 0x30, 0x80, 0x3f, 0x18, 0, 1, 0x24, 0x7f, 0xff] := by
      cbv
    exact Except.ok.inj (writes.symm.trans writesOut)
  · have renumbered :
        (value.mapRefs exchanged.total).arranged =
          .annotated 1 [(0, .array [.float 0x3f800000, .type 0]), (1, .int (-129))] := by
      cbv
    rwa [renumbered] at reads

end NewNumbers

/-- What is written of a container's values is what writing them under new numbers gives, and an
entry that is missing is told alike. -/
theorem Container.valueBytes_newNumbers
    {container : Container}
    {renumbering : Renumbering}
    (covers : renumbering.Covers container)
    (value : Value) :
    (container.newNumbers renumbering).valueBytes value =
      (container.renumbered renumbering).checkRefs (value.mapRefs renumbering.map).refs >>= fun _ =>
        .ok ((value.mapRefs renumbering.map).arranged).bytes := by
  rw [NewNumbers.resolves_valueBytes value, NewNumbers.newBytes, total_newNumbers covers,
    ← Value.map_renumber_lookUps, checkRefs_renumber covers]

end DexPatch
