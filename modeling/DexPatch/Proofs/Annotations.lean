import DexPatch.Image.Writer
import DexPatch.Proofs.Offsets
import DexPatch.Proofs.Values

namespace DexPatch

/-!
# Annotations read back

A set of annotations, a list of sets and a directory are lists of offsets, and
reading one follows each offset.  So each is read back where it is held if
what its offsets lead to is.
-/

/-- A computation applied to one image of each element gives the other image of each. -/
theorem mapM_eq_ok_of_forall
    {ε α β γ : Type}
    {f : β → Except ε γ}
    (source : α → β)
    (target : α → γ)
    {list : List α}
    (each : ∀ x ∈ list, f (source x) = .ok (target x)) :
    (list.map source).mapM f = .ok (list.map target) := by
  induction list with
  | nil =>
      rfl
  | cons x rest inductionHypothesis =>
      rw [List.map_cons, List.mapM_cons, bind_of_ok (each x (by simp)),
        bind_of_ok (inductionHypothesis fun y member => each y (by simp [member]))]
      rfl

/-- The length in front of a list of offsets, and each offset, is read where the list is held. -/
theorem natAt_of_holds_offsetList
    {data : Bytes}
    {offset : Nat}
    {offsets : List Nat}
    (fits : data.size < 4294967296)
    (small : ∀ target ∈ offsets, target < 4294967296)
    (held : Holds data offset (offsetListBytes offsets)) :
    natAt data offset = .ok offsets.length ∧
      ∀ (i : Nat) (inside : i < offsets.length),
        natAt data (offset + 4 + i * 4) = .ok offsets[i] := by
  have size := held.le_size
  have few := length_mul_le_length_flatMap le32 offsets 4 fun target _ => by simp
  simp only [offsetListBytes, List.length_append] at size
  refine ⟨natAt_of_holds (by omega) held.left, fun i inside => ?_⟩
  have entry := held.right.flatMap_getElem_of_width 4 (fun _ _ => by simp) inside
  rw [length_le32] at entry
  exact natAt_of_holds (small _ (List.getElem_mem inside)) entry

/-- A set is read where its offsets are held, if they lead to its annotations. -/
theorem annotationSetAt_of_holds
    {data : Bytes}
    {offset : Nat}
    {set : AnnotationSet}
    {place : AnnotationItem → Nat}
    (fits : data.size < 4294967296)
    (items : ∀ item ∈ set, Holds data (place item) item.bytes)
    (held : Holds data offset (offsetListBytes (List.map place set))) :
    annotationSetAt data offset = .ok set := by
  have small : ∀ target ∈ List.map place set, target < 4294967296 := by
    intro target member
    obtain ⟨item, isItem, rfl⟩ := List.mem_map.mp member
    have := (items item isItem).le_size
    omega
  obtain ⟨count, entries⟩ := natAt_of_holds_offsetList fits small held
  rw [annotationSetAt, bind_of_ok count, List.length_map]
  refine collect_eq_ok_iff.mpr ⟨rfl, fun i inside => ?_⟩
  have entry := entries i (by simpa using inside)
  rw [List.getElem_map] at entry
  have item := items _ (List.getElem_mem inside)
  have size := item.le_size
  have reads := (AnnotationItem.reads (List.get set ⟨i, inside⟩) (by
    have := item.le_size
    simp only [List.get_eq_getElem]
    omega)) item.tail
  rw [bind_of_ok entry, bind_of_ok (u8At_of_holds item),
    bind_of_ok (Cursor.readAt_of_ok reads)]
  rfl

/-- An offset that leads to a set. -/
def LeadsToSet (data : Bytes) (offset : Nat) (set : AnnotationSet) : Prop :=
  0 < offset ∧ offset < 4294967296 ∧ annotationSetAt data offset = .ok set

/-- A list of sets is read where its offsets are held, if they lead to the sets. -/
theorem refListAt_of_holds
    {data : Bytes}
    {offset : Nat}
    {offsets : AnnotationOffsets}
    {sets : List (Option AnnotationSet)}
    (fits : data.size < 4294967296)
    (leads : ∀ set, some set ∈ sets → LeadsToSet data (offsets.ofSet set) set)
    (held : Holds data offset (offsets.refListBytes sets)) :
    refListAt data offset = .ok sets := by
  have small :
      ∀ target ∈ sets.map fun set => (set.map offsets.ofSet).getD 0, target < 4294967296 := by
    intro target member
    obtain ⟨set, isSet, rfl⟩ := List.mem_map.mp member
    cases set with
    | none =>
        simp
    | some set =>
        exact (leads set isSet).2.1
  obtain ⟨count, entries⟩ := natAt_of_holds_offsetList fits small held
  rw [refListAt, bind_of_ok count, List.length_map]
  refine collect_eq_ok_iff.mpr ⟨rfl, fun i inside => ?_⟩
  have entry := entries i (by simpa using inside)
  rw [List.getElem_map] at entry
  have member := List.getElem_mem inside
  rw [bind_of_ok entry]
  cases found : sets[i] with
  | none =>
      rfl
  | some set =>
      rw [found] at member
      obtain ⟨positive, -, read⟩ := leads set member
      have nonzero : offsets.ofSet set ≠ 0 := by omega
      simp only [Option.map_some, Option.getD_some, nonzero, ↓reduceIte]
      rw [bind_of_ok read]
      rfl

theorem length_memberOffsetsBytes (entries : List (UInt32 × Nat)) :
    (memberOffsetsBytes entries).length = entries.length * 8 := by
  simp [memberOffsetsBytes, List.length_flatMap, List.map_const']

/-- Pairs of a member and an offset are read where they are held. -/
theorem memberOffsetsAt_of_holds
    {data : Bytes}
    {offset : Nat}
    {entries : List (UInt32 × Nat)}
    (small : ∀ entry ∈ entries, entry.2 < 4294967296)
    (held : Holds data offset (memberOffsetsBytes entries)) :
    memberOffsetsAt data offset entries.length = .ok entries := by
  refine collect_eq_ok_iff.mpr ⟨rfl, fun i inside => ?_⟩
  have entry := held.flatMap_getElem_of_width 8 (fun _ _ => by simp) inside
  have second := entry.right
  rw [length_le32] at second
  rw [bind_of_ok (u32At_toNat_of_holds entry.left),
    bind_of_ok (natAt_of_holds (small _ (List.getElem_mem inside)) second)]
  rfl

/-- The offsets of annotated members are read where they are held, if they lead to sets. -/
theorem setOffsetsAt_of_leads
    {data : Bytes}
    {offset : Nat}
    {offsets : AnnotationOffsets}
    {members : List (UInt32 × AnnotationSet)}
    (leads : ∀ entry ∈ members, LeadsToSet data (offsets.ofSet entry.2) entry.2)
    (held :
      Holds data offset
        (memberOffsetsBytes (members.map fun entry => (entry.1, offsets.ofSet entry.2)))) :
    memberOffsetsAt data offset members.length =
      .ok (members.map fun entry => (entry.1, offsets.ofSet entry.2)) := by
  have small :
      ∀ entry ∈ members.map fun entry => (entry.1, offsets.ofSet entry.2),
        entry.2 < 4294967296 := by
    intro entry member
    obtain ⟨source, isSource, rfl⟩ := List.mem_map.mp member
    exact (leads source isSource).2.1
  have reads := memberOffsetsAt_of_holds small held
  rwa [List.length_map] at reads

/-- The offsets of annotated parameters are read where they are held. -/
theorem listOffsetsAt_of_holds
    {α : Type}
    {data : Bytes}
    {offset : Nat}
    {members : List (UInt32 × α)}
    {refLists : List Nat}
    (sameLength : refLists.length = members.length)
    (small : ∀ entry ∈ List.zip members refLists, entry.2 < 4294967296)
    (held : Holds data offset (memberOffsetsBytes (List.zip (members.map (·.1)) refLists))) :
    memberOffsetsAt data offset members.length =
      .ok (List.zip (members.map (·.1)) refLists) := by
  have shape :
      List.zip (members.map (·.1)) refLists =
        (List.zip members refLists).map fun entry => (entry.1.1, entry.2) := by
    rw [List.zip_map_left]
    rfl
  have length : (List.zip (members.map (·.1)) refLists).length = members.length := by
    simp [sameLength]
  have reads := memberOffsetsAt_of_holds (by
    intro entry member
    rw [shape] at member
    obtain ⟨source, isSource, rfl⟩ := List.mem_map.mp member
    exact small source isSource) held
  rwa [length] at reads

/-- A set that may be absent is read at its offset. -/
theorem atOffset_of_leads
    {data : Bytes}
    {offsets : AnnotationOffsets}
    {set : Option AnnotationSet}
    (leads : ∀ present, set = some present → LeadsToSet data (offsets.ofSet present) present) :
    atOffset ((set.map offsets.ofSet).getD 0) (annotationSetAt data) = .ok set := by
  cases set with
  | none =>
      rfl
  | some present =>
      obtain ⟨positive, -, read⟩ := leads present rfl
      exact atOffset_eq_some_iff.mpr ⟨by simp only [Option.map_some, Option.getD_some]; omega, read⟩

/-- The sets of members are read at their offsets. -/
theorem mapM_withSet
    {data : Bytes}
    {offsets : AnnotationOffsets}
    {list : List (UInt32 × AnnotationSet)}
    (leads : ∀ entry ∈ list, LeadsToSet data (offsets.ofSet entry.2) entry.2) :
    (list.map fun entry => (entry.1, offsets.ofSet entry.2)).mapM
        (fun entry : UInt32 × Nat => do return (entry.1, ← annotationSetAt data entry.2)) =
      Except.ok list := by
  have read :=
    mapM_eq_ok_of_forall
      (f := fun entry : UInt32 × Nat => do return (entry.1, ← annotationSetAt data entry.2))
      (fun entry : UInt32 × AnnotationSet => (entry.1, offsets.ofSet entry.2)) id
      fun entry member => by
        rw [bind_of_ok (leads entry member).2.2]
        rfl
  rwa [List.map_id] at read

/-- The lists of sets of methods are read at their offsets. -/
theorem mapM_withList
    {data : Bytes}
    {list : List (UInt32 × List (Option AnnotationSet))}
    {refLists : List Nat}
    (sameLength : refLists.length = list.length)
    (leads :
      ∀ entry ∈ List.zip list refLists,
        entry.2 < 4294967296 ∧ refListAt data entry.2 = .ok entry.1.2) :
    (List.zip (list.map (·.1)) refLists).mapM
        (fun entry : UInt32 × Nat => do return (entry.1, ← refListAt data entry.2)) =
      Except.ok list := by
  have read :=
    mapM_eq_ok_of_forall
      (f := fun entry : UInt32 × Nat => do return (entry.1, ← refListAt data entry.2))
      (fun entry : (UInt32 × List (Option AnnotationSet)) × Nat => (entry.1.1, entry.2)) Prod.fst
      fun entry member => by
        rw [bind_of_ok (leads entry member).2]
        rfl
  rw [List.map_fst_zip (by omega)] at read
  rwa [List.zip_map_left]

/-- The sets that a directory leads to itself, without those of its parameter lists. -/
def AnnotationDirectory.ownSets (directory : AnnotationDirectory) : List AnnotationSet :=
  directory.ofClass.toList ++ directory.ofFields.map (·.2) ++ directory.ofMethods.map (·.2)

/-- A directory is read where it is held, if its offsets lead to its sets and lists of sets. -/
theorem directoryAt_of_holds
    {data : Bytes}
    {offset : Nat}
    {offsets : AnnotationOffsets}
    {directory : AnnotationDirectory}
    {refLists : List Nat}
    (fits : data.size < 4294967296)
    (leads : ∀ set ∈ directory.ownSets, LeadsToSet data (offsets.ofSet set) set)
    (sameLength : refLists.length = directory.ofParameters.length)
    (parameters :
      ∀ entry ∈ List.zip directory.ofParameters refLists,
        entry.2 < 4294967296 ∧ refListAt data entry.2 = .ok entry.1.2)
    (held : Holds data offset (offsets.directoryBytes directory refLists)) :
    directoryAt data offset = .ok directory := by
  have inside := held.le_size
  have fieldsLeads : ∀ entry ∈ directory.ofFields, LeadsToSet data (offsets.ofSet entry.2) entry.2 :=
    fun entry member => leads entry.2 (by
      simp only [AnnotationDirectory.ownSets, List.mem_append]
      exact .inl (.inr (List.mem_map_of_mem member)))
  have methodsLeads :
      ∀ entry ∈ directory.ofMethods, LeadsToSet data (offsets.ofSet entry.2) entry.2 :=
    fun entry member => leads entry.2 (by
      simp only [AnnotationDirectory.ownSets, List.mem_append]
      exact .inr (List.mem_map_of_mem member))
  have parametersLength :
      (List.zip (directory.ofParameters.map (·.1)) refLists).length =
        directory.ofParameters.length := by
    simp [sameLength]
  simp only [AnnotationOffsets.directoryBytes, List.length_append, length_le32,
    length_memberOffsetsBytes, List.length_map, parametersLength] at inside
  simp only [AnnotationOffsets.directoryBytes, Holds.append_iff, List.length_append, length_le32,
    length_memberOffsetsBytes, List.length_map, and_assoc, Nat.reduceAdd] at held
  obtain ⟨ofClass, fieldCount, methodCount, parameterCount, fields, methods, lists⟩ := held
  have readsFields := setOffsetsAt_of_leads fieldsLeads fields
  have readsMethods := setOffsetsAt_of_leads methodsLeads methods
  have readsLists :=
    listOffsetsAt_of_holds sameLength (fun entry member => (parameters entry member).1) lists
  have classFits : (directory.ofClass.map offsets.ofSet).getD 0 < 4294967296 := by
    cases found : directory.ofClass with
    | none =>
        simp
    | some set =>
        exact (leads set (by simp [AnnotationDirectory.ownSets, found])).2.1
  have readsClass :
      (if (directory.ofClass.map offsets.ofSet).getD 0 = 0 then pure none
        else some <$> annotationSetAt data ((directory.ofClass.map offsets.ofSet).getD 0)) =
        Except.ok directory.ofClass :=
    atOffset_of_leads fun set found => leads set (by simp [AnnotationDirectory.ownSets, found])
  rw [directoryAt, bind_of_ok (natAt_of_holds classFits ofClass),
    bind_of_ok (natAt_of_holds (by omega) fieldCount),
    bind_of_ok (natAt_of_holds (by omega) methodCount),
    bind_of_ok (natAt_of_holds (by omega) parameterCount)]
  dsimp only
  rw [bind_of_ok readsFields, Nat.add_assoc offset, bind_of_ok readsMethods,
    Nat.add_assoc offset, bind_of_ok readsLists, ite_bind, bind_of_ok readsClass,
    bind_of_ok (mapM_withSet fieldsLeads), bind_of_ok (mapM_withSet methodsLeads)]
  exact bind_of_ok (mapM_withList sameLength parameters)

end DexPatch
