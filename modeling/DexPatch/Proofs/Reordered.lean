import Mathlib.Data.List.Forall2
import DexPatch.Proofs.CanonicalLists

namespace DexPatch

/-!
# Lists in another order

An image keeps members, annotations and the elements of annotations in an
order of its own.  Two classes are the same up to this order if each list of
one is, element by element, a permutation of that of the other.
-/

/-- Values that differ in nothing but the order of the elements of annotations, at any depth: the
least equivalence that passes from parts to wholes and lets elements change places. -/
inductive Value.Reordered : Value → Value → Prop
  | refl (value : Value) : Reordered value value
  | symm {first second : Value} : Reordered first second → Reordered second first
  | trans {first second third : Value} :
      Reordered first second → Reordered second third → Reordered first third
  | item {before after : List Value} {old new : Value} :
      Reordered old new → Reordered (.array (before ++ old :: after)) (.array (before ++ new :: after))
  | element {type name : UInt32} {before after : List (UInt32 × Value)} {old new : Value} :
      Reordered old new →
        Reordered (.annotated type (before ++ (name, old) :: after))
          (.annotated type (before ++ (name, new) :: after))
  | permuted {type : UInt32} {elements others : List (UInt32 × Value)} :
      elements.Perm others → Reordered (.annotated type elements) (.annotated type others)

/-- The elements of the lists are related one by one once those of the second are permuted. -/
def ReorderedList
    {α : Type}
    (related : α → α → Prop)
    (old new : List α) :
    Prop :=
  ∃ middle, List.Forall₂ related old middle ∧ middle.Perm new

/-- Two keyed things with the same key. -/
def SameKey
    {α : Type}
    (related : α → α → Prop)
    (old new : UInt32 × α) :
    Prop :=
  old.1 = new.1 ∧ related old.2 new.2

/-- Annotations up to the order of their elements. -/
structure AnnotationItem.Reordered (old new : AnnotationItem) : Prop where
  visibility : new.visibility = old.visibility
  type : new.type = old.type
  elements : ReorderedList (SameKey Value.Reordered) old.elements new.elements

/-- Sets of annotations up to the order of the annotations. -/
def AnnotationSet.Reordered (old new : AnnotationSet) : Prop :=
  ReorderedList AnnotationItem.Reordered old new

/-- Directories up to the order of members and annotations.  The parameters of a method keep their
order. -/
structure AnnotationDirectory.Reordered (old new : AnnotationDirectory) : Prop where
  ofClass : Option.Rel AnnotationSet.Reordered old.ofClass new.ofClass
  ofFields : ReorderedList (SameKey AnnotationSet.Reordered) old.ofFields new.ofFields
  ofMethods : ReorderedList (SameKey AnnotationSet.Reordered) old.ofMethods new.ofMethods
  ofParameters :
    ReorderedList (SameKey (List.Forall₂ (Option.Rel AnnotationSet.Reordered))) old.ofParameters
      new.ofParameters

/-- The members of a class up to their order in each list. -/
structure ClassData.Reordered (old new : ClassData) : Prop where
  staticFields : old.staticFields.Perm new.staticFields
  instanceFields : old.instanceFields.Perm new.instanceFields
  directMethods : old.directMethods.Perm new.directMethods
  virtualMethods : old.virtualMethods.Perm new.virtualMethods

/-- Classes up to the order of members and annotations.  Interfaces and initial values keep their
order. -/
structure ClassDef.Reordered (old new : ClassDef) : Prop where
  type : new.type = old.type
  access : new.access = old.access
  superclass : new.superclass = old.superclass
  interfaces : new.interfaces = old.interfaces
  sourceFile : new.sourceFile = old.sourceFile
  annotations : Option.Rel AnnotationDirectory.Reordered old.annotations new.annotations
  data : Option.Rel ClassData.Reordered old.data new.data
  staticValues : Option.Rel (List.Forall₂ Value.Reordered) old.staticValues new.staticValues

/-! ## Ordered lists are the old ones, reordered -/

/-- A list that is changed element by element and sorted is the old one, reordered. -/
theorem reorderedList_sortOn_map
    {α : Type}
    {related : α → α → Prop}
    {change : α → α}
    (key : α → UInt32)
    {list : List α}
    (each : ∀ x ∈ list, related x (change x)) :
    ReorderedList related list (sortOn key (list.map change)) := by
  refine ⟨list.map change, ?_, (sortOn_perm key _).symm⟩
  rw [List.forall₂_map_right_iff]
  exact List.forall₂_same.mpr each

theorem optionRel_map
    {α : Type}
    {related : α → α → Prop}
    {change : α → α}
    (each : ∀ x, related x (change x))
    (option : Option α) :
    Option.Rel related option (option.map change) := by
  cases option with
  | none =>
      exact .none
  | some x =>
      exact .some (each x)

namespace Value

/-- Items behind some others can be changed one by one. -/
theorem Reordered.items_behind
    {old new : List Value}
    (each : List.Forall₂ Reordered old new)
    (before : List Value) :
    Reordered (.array (before ++ old)) (.array (before ++ new)) := by
  induction each generalizing before with
  | nil =>
      exact .refl _
  | @cons item other _ _ related _ inductionHypothesis =>
      have later := inductionHypothesis (before ++ [other])
      rw [List.append_assoc, List.append_assoc] at later
      exact .trans (.item related) later

/-- Arrays whose items are reordered are. -/
theorem Reordered.items
    {old new : List Value}
    (each : List.Forall₂ Reordered old new) :
    Reordered (.array old) (.array new) :=
  items_behind each []

theorem Reordered.elements_behind
    {type : UInt32}
    {old new : List (UInt32 × Value)}
    (each : List.Forall₂ (SameKey Reordered) old new)
    (before : List (UInt32 × Value)) :
    Reordered (.annotated type (before ++ old)) (.annotated type (before ++ new)) := by
  induction each generalizing before with
  | nil =>
      exact .refl _
  | @cons first second rest others related _ inductionHypothesis =>
      obtain ⟨name, value⟩ := first
      obtain ⟨otherName, otherValue⟩ := second
      obtain ⟨rfl, related⟩ := related
      have later := inductionHypothesis (before ++ [(name, otherValue)])
      rw [List.append_assoc, List.append_assoc] at later
      exact .trans (.element related) later

/-- Annotations whose elements are reordered are. -/
theorem Reordered.elements
    {type : UInt32}
    {old new : List (UInt32 × Value)}
    (reordered : ReorderedList (SameKey Reordered) old new) :
    Reordered (.annotated type old) (.annotated type new) := by
  obtain ⟨middle, each, perm⟩ := reordered
  exact .trans (elements_behind each []) (.permuted perm)

/-- Putting the elements of a value in order reorders it. -/
theorem reordered_arranged (value : Value) : value.Reordered value.arranged := by
  induction value using nestedInduction with
  | step value inductionHypothesis =>
      cases value with
      | array items =>
          rw [arranged, arrangedItems_eq]
          refine .items ?_
          rw [List.forall₂_map_right_iff]
          exact List.forall₂_same.mpr inductionHypothesis
      | annotated type elements =>
          rw [arranged, arrangedElements_eq]
          refine .elements (reorderedList_sortOn_map _ fun element member => ?_)
          exact ⟨rfl, inductionHypothesis element.2 (List.mem_map_of_mem member)⟩
      | _ =>
          exact .refl _

theorem forall₂_reordered_arranged (items : List Value) :
    List.Forall₂ Reordered items (arrangedItems items) := by
  rw [arrangedItems_eq, List.forall₂_map_right_iff]
  exact List.forall₂_same.mpr fun item _ => item.reordered_arranged

end Value

theorem AnnotationItem.reordered_arranged (item : AnnotationItem) :
    item.Reordered item.arranged := by
  refine ⟨rfl, rfl, ?_⟩
  show ReorderedList _ _ (sortOn _ (Value.arrangedElements item.elements))
  rw [Value.arrangedElements_eq]
  exact reorderedList_sortOn_map _ fun element _ => ⟨rfl, element.2.reordered_arranged⟩

theorem AnnotationSet.reordered_arranged (set : AnnotationSet) :
    AnnotationSet.Reordered set (AnnotationSet.arranged set) :=
  reorderedList_sortOn_map _ fun item _ => item.reordered_arranged

theorem AnnotationDirectory.reordered_arranged (directory : AnnotationDirectory) :
    directory.Reordered directory.arranged := by
  have shape :
      directory.arranged = (directory.mapSets AnnotationSet.arranged).membersArranged :=
    (membersArranged_mapSets _ _).symm
  rw [shape]
  refine ⟨optionRel_map AnnotationSet.reordered_arranged _, ?_, ?_, ?_⟩
  · exact reorderedList_sortOn_map _ fun field _ => ⟨rfl, field.2.reordered_arranged⟩
  · exact reorderedList_sortOn_map _ fun method _ => ⟨rfl, method.2.reordered_arranged⟩
  · refine reorderedList_sortOn_map _ fun method _ => ⟨rfl, ?_⟩
    rw [List.forall₂_map_right_iff]
    exact List.forall₂_same.mpr fun set _ => optionRel_map AnnotationSet.reordered_arranged set

theorem ClassData.reordered_arranged (data : ClassData) : data.Reordered data.arranged where
  staticFields := (sortOn_perm _ _).symm
  instanceFields := (sortOn_perm _ _).symm
  directMethods := (sortOn_perm _ _).symm
  virtualMethods := (sortOn_perm _ _).symm

/-- Putting the lists of a class in order reorders the class. -/
theorem ClassDef.reordered_arranged (classDef : ClassDef) :
    classDef.Reordered classDef.arranged where
  type := rfl
  access := rfl
  superclass := rfl
  interfaces := rfl
  sourceFile := rfl
  annotations := optionRel_map AnnotationDirectory.reordered_arranged _
  data := optionRel_map ClassData.reordered_arranged _
  staticValues := optionRel_map Value.forall₂_reordered_arranged _

end DexPatch
