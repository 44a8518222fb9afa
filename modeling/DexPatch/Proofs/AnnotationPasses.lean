import DexPatch.Proofs.CanonicalLists
import DexPatch.Proofs.Classes
import DexPatch.Proofs.SharedPieces
import DexPatch.Proofs.WrittenValues

namespace DexPatch

/-!
# Annotations written in passes

What a pass works out for a set or a directory is what the renumbered one in
order is written as.  A pass looks up what it meets, in its old order, and puts
it where the new order has it.  If all of it has new numbers, and what is asked
for was written by the passes before, a pass does not fail.
-/

/-! ## What an annotation is written as -/

/-- The references of an annotation in the order in which they are looked up. -/
def AnnotationItem.lookUps (f : RefMap) (item : AnnotationItem) : List Reference :=
  .long .type item.type :: (Value.annotated item.type item.elements).lookUps f

/-- The references of a set in the order in which they are looked up. -/
def AnnotationSet.lookUps (f : RefMap) (set : AnnotationSet) : List Reference :=
  List.flatMap (AnnotationItem.lookUps f) set

theorem AnnotationItem.mem_lookUps
    {f : RefMap}
    {item : AnnotationItem}
    {ref : Reference} :
    ref ∈ item.lookUps f ↔ ref ∈ item.refs := by
  rw [lookUps, refs, List.mem_cons, List.mem_cons, Value.mem_lookUps]

/-- What is looked up gets the numbers that the renumbered annotation refers to. -/
theorem AnnotationItem.map_renumber_lookUps (f : RefMap) (item : AnnotationItem) :
    (item.lookUps f).map (Reference.renumber f) = (item.mapRefs f).refs := by
  rw [lookUps, List.map_cons, Value.map_renumber_lookUps]
  rfl

namespace NewNumbers

variable (numbers : NewNumbers)

/-- An annotation that has its new numbers and is in order. -/
def newItem (item : AnnotationItem) : AnnotationItem :=
  (item.mapRefs numbers.total).arranged

/-- A set that has its new numbers and is in order. -/
def newSet (set : AnnotationSet) : AnnotationSet :=
  (AnnotationSet.mapRefs numbers.total set).arranged

/-- A directory that has its new numbers and is in order. -/
def newDirectory (directory : AnnotationDirectory) : AnnotationDirectory :=
  (directory.mapRefs numbers.total).arranged

/-- A directory whose members have their new numbers and are in order. -/
def prepared (directory : AnnotationDirectory) : AnnotationDirectory :=
  AnnotationDirectory.membersArranged
    { ofClass := directory.ofClass
      ofFields := directory.ofFields.map fun (field, set) => (numbers.total .field field, set)
      ofMethods := directory.ofMethods.map fun (method, set) => (numbers.total .method method, set)
      ofParameters :=
        directory.ofParameters.map fun (method, sets) => (numbers.total .method method, sets) }

theorem mapRefs_prepared (directory : AnnotationDirectory) :
    (numbers.prepared directory).mapSets (AnnotationSet.mapRefs numbers.total) =
      (directory.mapRefs numbers.total).membersArranged := by
  rw [prepared, ← AnnotationDirectory.membersArranged_mapSets]
  simp only [AnnotationDirectory.mapSets, AnnotationDirectory.mapRefs, List.map_map]
  rfl

/-- Once its sets have their new numbers too and are in order, so is all of a directory. -/
theorem mapSets_prepared (directory : AnnotationDirectory) :
    (numbers.prepared directory).mapSets numbers.newSet = numbers.newDirectory directory := by
  rw [newDirectory, AnnotationDirectory.arranged, ← mapRefs_prepared,
    AnnotationDirectory.mapSets_mapSets]
  rfl

/-- A prepared directory has the sets that it had. -/
theorem mem_sets_prepared
    {directory : AnnotationDirectory}
    {set : AnnotationSet} :
    set ∈ (numbers.prepared directory).sets ↔ set ∈ directory.sets := by
  rw [prepared, AnnotationDirectory.sets_membersArranged_perm.mem_iff]
  simp [AnnotationDirectory.sets, List.flatMap_map, Function.comp_def]

/-- The annotations of a set come in the order of the new numbers of their types. -/
theorem newSet_eq (set : AnnotationSet) :
    numbers.newSet set =
      (sortOn (fun item : AnnotationItem => numbers.total .type item.type) set).map
        numbers.newItem := by
  rw [newSet, AnnotationSet.arranged, AnnotationSet.mapRefs, List.map_map]
  exact sortOn_map _ (fun _ => rfl) set

namespace Resolves

variable {numbers}

theorem itemBytes (item : AnnotationItem) :
    numbers.Resolves ((Value.annotated item.type item.elements).lookUps numbers.total)
      (numbers.newItem item).bytes (numbers.itemBytes item) :=
  (annotationBytes item.type fun part _ => resolves_valueBytes part).map (item.visibility :: ·)

theorem sortedItems (set : AnnotationSet) :
    numbers.Resolves (set.lookUps numbers.total)
      (List.map AnnotationItem.bytes (numbers.newSet set)) (numbers.sortedItems set) := by
  have items :
      numbers.Resolves (set.lookUps numbers.total)
        (List.map (fun item : AnnotationItem =>
          (numbers.total .type item.type, (numbers.newItem item).bytes)) set)
        (List.mapM (fun item : AnnotationItem => do
          return (← numbers.lookUp .type item.type, ← numbers.itemBytes item)) set) :=
    mapM fun item _ => (lookUp .type item.type).bind ((itemBytes item).map _)
  have sorted :
      (sortOn (·.1) (List.map (fun item : AnnotationItem =>
          (numbers.total .type item.type, (numbers.newItem item).bytes)) set)).map (·.2) =
        List.map AnnotationItem.bytes (numbers.newSet set) := by
    rw [sortOn_map (fun item : AnnotationItem => numbers.total .type item.type), newSet_eq,
      List.map_map, List.map_map]
    · rfl
    · exact fun _ => rfl
  rw [← sorted]
  exact items.map _

/-- Members are looked up in their old order. -/
theorem members
    {α : Type}
    (pool : Pool)
    (list : List (UInt32 × α)) :
    numbers.Resolves (list.map fun entry => .long pool entry.1)
      (list.map fun entry => (numbers.total pool entry.1, entry.2))
      (list.mapM fun entry => do return (← numbers.lookUp pool entry.1, entry.2)) := by
  rw [List.map_eq_flatMap]
  exact mapM fun entry _ => (lookUp pool entry.1).map _

theorem prepare (directory : AnnotationDirectory) :
    numbers.Resolves directory.memberRefs (numbers.prepared directory)
      (numbers.prepare directory) := by
  rw [AnnotationDirectory.memberRefs, List.append_assoc]
  exact (members .field directory.ofFields).bind
    ((members .method directory.ofMethods).bind ((members .method directory.ofParameters).map _))

/-- The members of all directories are looked up, those of one directory after the other. -/
theorem prepareAll (directories : List (Option AnnotationDirectory)) :
    numbers.Resolves ((directories.filterMap id).flatMap (·.memberRefs))
      (directories.map (·.map numbers.prepared)) (numbers.prepareAll directories) := by
  have sameRefs :
      (directories.filterMap id).flatMap (·.memberRefs) =
        directories.flatMap fun directory => directory.toList.flatMap (·.memberRefs) := by
    induction directories with
    | nil =>
        rfl
    | cons directory rest inductionHypothesis =>
        cases directory <;> simpa using inductionHypothesis
  rw [sameRefs]
  refine mapM fun directory _ => ?_
  cases directory with
  | none =>
      exact done none
  | some directory =>
      rw [Option.toList_some, List.flatMap_singleton]
      exact (prepare directory).map some

end Resolves

/-! ## The passes over annotations and sets -/

/-- A pass over what is inside each element of a list is one over what is inside all of them. -/
theorem foldlM_flatMap
    {ε σ α β : Type}
    (step : σ → β → Except ε σ)
    (inner : α → List β)
    (list : List α)
    (state : σ) :
    list.foldlM (fun state x => (inner x).foldlM step state) state =
      (list.flatMap inner).foldlM step state := by
  induction list generalizing state with
  | nil =>
      rfl
  | cons x rest inductionHypothesis =>
      rw [List.foldlM_cons, List.flatMap_cons, List.foldlM_append]
      exact congrArg _ (funext inductionHypothesis)

/-- The written forms of the annotations of a set that has its new numbers and is in order. -/
def newItems (set : AnnotationSet) : List (List UInt8) :=
  List.map AnnotationItem.bytes (numbers.newSet set)

/-- The entries of a set that has its new numbers and is in order. -/
def newEntries (items : Std.HashMap (List UInt8) Nat) (set : AnnotationSet) : List Nat :=
  AnnotationOffsets.entries items (numbers.newSet set)

/-- Everything that sets refer to has a new number. -/
def CoversSets (sets : List AnnotationSet) : Prop :=
  ∀ set ∈ sets, ∀ ref ∈ set.lookUps numbers.total, numbers.Renumbers ref

section Passes

variable {numbers} {set : AnnotationSet} {sets : List AnnotationSet}

/-- The pass over annotations looks up what the sets refer to, and puts the annotations of all
sets. -/
theorem foldlM_sortedItems (sets : List AnnotationSet) (items : Shared (List UInt8)) :
    sets.foldlM (fun items set => do
        return (← (numbers.sortedItems set).mapError .refused).foldl (Shared.put 1 id) items)
        items =
      ((sets.flatMap (AnnotationSet.lookUps numbers.total)).forM numbers.checkOperand).mapError
          AnnotationError.refused >>= fun _ =>
        .ok ((sets.flatMap numbers.newItems).foldl (Shared.put 1 id) items) := by
  induction sets generalizing items with
  | nil =>
      rfl
  | cons set rest inductionHypothesis =>
      rw [List.foldlM_cons, Resolves.sortedItems set, List.flatMap_cons, List.flatMap_cons,
        forM_append, List.foldl_append]
      cases (set.lookUps numbers.total).forM numbers.checkOperand with
      | error reason =>
          rfl
      | ok _ =>
          exact inductionHypothesis _

/-- A set whose references have new numbers is written out. -/
theorem sortedItems_eq_ok
    (covers : ∀ ref ∈ set.lookUps numbers.total, numbers.Renumbers ref) :
    (numbers.sortedItems set).mapError AnnotationError.refused = .ok (numbers.newItems set) := by
  rw [(Resolves.sortedItems set).eq_ok covers]
  rfl

/-- The annotations that are asked for are found. -/
theorem setEntries_eq_ok
    {items : Std.HashMap (List UInt8) Nat}
    (covers : ∀ ref ∈ set.lookUps numbers.total, numbers.Renumbers ref)
    (found : ∀ bytes ∈ numbers.newItems set, ∃ offset, items[bytes]? = some offset) :
    numbers.setEntries items set = .ok (numbers.newEntries items set) := by
  rw [setEntries, sortedItems_eq_ok covers]
  refine mapM_eq_ok_of_forall AnnotationItem.bytes (fun item => offsetIn items item.bytes)
    fun item member => ?_
  obtain ⟨offset, isOffset⟩ := found item.bytes (List.mem_map_of_mem member)
  rw [offsetIn, isOffset]
  rfl

/-- The pass over sets puts the entries of each. -/
theorem foldlM_setEntries
    {items : Std.HashMap (List UInt8) Nat}
    (covers : numbers.CoversSets sets)
    (found :
      ∀ set ∈ sets, ∀ bytes ∈ numbers.newItems set, ∃ offset, items[bytes]? = some offset)
    (shared : Shared (List Nat)) :
    sets.foldlM (fun shared set => do
        return shared.put 4 offsetListBytes (← numbers.setEntries items set)) shared =
      .ok ((sets.map (numbers.newEntries items)).foldl (Shared.put 4 offsetListBytes) shared) := by
  induction sets generalizing shared with
  | nil =>
      rfl
  | cons set rest inductionHypothesis =>
      obtain ⟨coversFirst, coversRest⟩ := List.forall_mem_cons.mp covers
      obtain ⟨foundFirst, foundRest⟩ := List.forall_mem_cons.mp found
      rw [List.foldlM_cons, setEntries_eq_ok coversFirst foundFirst, List.map_cons,
        List.foldl_cons]
      exact inductionHypothesis coversRest foundRest _

/-- The set that is asked for is found under its entries. -/
theorem setOffset_eq_ok
    {offsets : AnnotationOffsets}
    {offset : Nat}
    (entries : numbers.setEntries offsets.items set = .ok (numbers.newEntries offsets.items set))
    (isOffset : offsets.sets[numbers.newEntries offsets.items set]? = some offset) :
    numbers.setOffset offsets set = .ok (offsets.ofSet (numbers.newSet set)) := by
  rw [setOffset, bind_of_ok entries, isOffset, AnnotationOffsets.ofSet, offsetIn]
  exact congrArg Except.ok (congrArg (Option.getD · 0) isOffset).symm

end Passes

end NewNumbers

/-! ## The passes over lists of sets and directories -/

namespace Placing

variable {α : Type} {list : List α}

/-- Steps that each put one piece place the pieces. -/
theorem run_mapM_of_placed
    {step : α → Placing Nat}
    {piece : α → Option (List UInt8)}
    (each :
      ∀ x ∈ list, ∀ layout : Layout,
        (step x).run layout = .ok ((layout.placed 4 (piece x)).swap))
    (layout : Layout) :
    (list.mapM step).run layout = .ok ((layout.place 4 (list.map piece)).swap) := by
  induction list generalizing layout with
  | nil =>
      rfl
  | cons x rest inductionHypothesis =>
      obtain ⟨first, others⟩ := List.forall_mem_cons.mp each
      rw [List.mapM_cons, StateT.run_bind, bind_of_ok (first layout), StateT.run_bind,
        bind_of_ok (inductionHypothesis others _), List.map_cons, Layout.place_cons]
      rfl

/-- Steps that each place a group of pieces place all pieces, and their offsets come in groups. -/
theorem run_mapM_of_place
    {step : α → Placing (List Nat)}
    (pieces : α → List (Option (List UInt8)))
    (each :
      ∀ x ∈ list, ∀ layout : Layout,
        (step x).run layout = .ok ((layout.place 4 (pieces x)).swap))
    (layout : Layout) :
    (list.mapM step).run layout =
      .ok (regroup (list.map pieces) (layout.place 4 (list.flatMap pieces)).2,
        (layout.place 4 (list.flatMap pieces)).1) := by
  induction list generalizing layout with
  | nil =>
      rfl
  | cons x rest inductionHypothesis =>
      obtain ⟨first, others⟩ := List.forall_mem_cons.mp each
      rw [List.mapM_cons, StateT.run_bind, bind_of_ok (first layout), StateT.run_bind,
        bind_of_ok (inductionHypothesis others _), List.map_cons, List.flatMap_cons,
        Layout.place_append, regroup, List.take_left' (by simp), List.drop_left' (by simp)]
      rfl

/-- A computation that puts nothing comes first. -/
theorem run_lift_bind
    {β : Type}
    {first : Except AnnotationError α}
    {result : α}
    (succeeds : first = .ok result)
    (next : α → Placing β)
    (layout : Layout) :
    ((first : Placing α) >>= next).run layout = (next result).run layout := by
  rw [succeeds]
  rfl

theorem run_placeAligned (piece : List UInt8) (layout : Layout) :
    (placeAligned piece).run layout = .ok ((layout.placed 4 (some piece)).swap) :=
  rfl

end Placing

/-- Computations that all succeed give a list of what each gives. -/
theorem mapM_eq_ok_map
    {ε α β : Type}
    {f : α → Except ε β}
    {target : α → β}
    {list : List α}
    (each : ∀ x ∈ list, f x = .ok (target x)) :
    list.mapM f = .ok (list.map target) := by
  have all := mapM_eq_ok_of_forall (f := f) id target each
  rwa [List.map_id] at all

namespace NewNumbers

section Passes

variable {numbers : NewNumbers} {offsets : AnnotationOffsets}
variable {directory : AnnotationDirectory}

/-- All sets of a directory are found. -/
def FindsAll (numbers : NewNumbers) (offsets : AnnotationOffsets)
    (directory : AnnotationDirectory) : Prop :=
  ∀ set ∈ directory.sets, numbers.setOffset offsets set = .ok (offsets.ofSet (numbers.newSet set))

theorem optionalSetOffset_eq_ok
    {set : Option AnnotationSet}
    (found :
      ∀ present ∈ set,
        numbers.setOffset offsets present = .ok (offsets.ofSet (numbers.newSet present))) :
    numbers.optionalSetOffset offsets set =
      .ok (((set.map numbers.newSet).map offsets.ofSet).getD 0) := by
  cases set with
  | none =>
      rfl
  | some present =>
      exact found present rfl

theorem memberOffsets_eq_ok
    {members : List (UInt32 × AnnotationSet)}
    (found :
      ∀ entry ∈ members,
        numbers.setOffset offsets entry.2 = .ok (offsets.ofSet (numbers.newSet entry.2))) :
    numbers.memberOffsets offsets members =
      .ok (members.map fun entry => (entry.1, offsets.ofSet (numbers.newSet entry.2))) :=
  mapM_eq_ok_map fun entry member => bind_of_ok (found entry member)

/-- The lists of sets of a directory are placed as those of the one in order. -/
theorem run_writeRefLists
    (finds : numbers.FindsAll offsets directory)
    (layout : Layout) :
    (numbers.writeRefLists offsets directory).run layout =
      .ok ((layout.place 4
        ((AnnotationDirectory.refLists (some (directory.mapSets numbers.newSet))).map
          fun sets => some (offsets.refListBytes sets))).swap) := by
  rw [AnnotationDirectory.refLists, AnnotationDirectory.mapSets, List.map_map, List.map_map]
  refine Placing.run_mapM_of_placed (fun entry member layout => ?_) layout
  have targets :
      numbers.listOffsets offsets entry.2 =
        .ok (entry.2.map fun set => ((set.map numbers.newSet).map offsets.ofSet).getD 0) :=
    mapM_eq_ok_map fun set isSet => optionalSetOffset_eq_ok fun present isPresent =>
      finds present (AnnotationDirectory.mem_sets_of_ofParameters member (isPresent ▸ isSet))
  have written :
      offsetListBytes
          (entry.2.map fun set => ((set.map numbers.newSet).map offsets.ofSet).getD 0) =
        offsets.refListBytes (entry.2.map (·.map numbers.newSet)) := by
    rw [AnnotationOffsets.refListBytes, List.map_map]
    rfl
  refine (Placing.run_lift_bind targets _ layout).trans ?_
  rw [written]
  rfl

/-- A directory is placed as the one in order. -/
theorem run_writeDirectory
    (finds : numbers.FindsAll offsets directory)
    (listOffsets : List Nat)
    (layout : Layout) :
    (numbers.writeDirectory offsets directory listOffsets).run layout =
      .ok ((layout.placed 4
        (some (offsets.directoryBytes (directory.mapSets numbers.newSet) listOffsets))).swap) := by
  have own (set : AnnotationSet) (member : set ∈ directory.ownSets) :=
    finds set (AnnotationDirectory.mem_sets_of_ownSets member)
  have ofClass := optionalSetOffset_eq_ok fun set (isClass : set ∈ directory.ofClass) =>
    own set (by simp [AnnotationDirectory.ownSets, Option.mem_def.mp isClass])
  have fields := memberOffsets_eq_ok fun entry (member : entry ∈ directory.ofFields) =>
    own entry.2 (List.mem_append_left _ (List.mem_append_right _ (List.mem_map_of_mem member)))
  have methods := memberOffsets_eq_ok fun entry (member : entry ∈ directory.ofMethods) =>
    own entry.2 (List.mem_append_right _ (List.mem_map_of_mem member))
  rw [writeDirectory, Placing.run_lift_bind ofClass, Placing.run_lift_bind fields,
    Placing.run_lift_bind methods, Placing.run_placeAligned]
  simp only [AnnotationOffsets.directoryBytes, AnnotationDirectory.mapSets, memberOffsetsBytes,
    List.flatMap_append, List.map_map, List.length_map, List.append_assoc]
  rfl

end Passes

end NewNumbers

end DexPatch
