import DexPatch.Proofs.Monotone

namespace DexPatch

/-!
# Growing a container in canonical order

Interning and new bodies leave the entries and the members that are there.  So
a container in canonical order may grow by any steps: sorting its pools again
moves no old entry behind a later one, and the lists of members that ascended
are written in the order they had, beside the initial values and hidden-API
flags that go by their places.
-/

/-- A step that can make a container grow. -/
inductive Growth where
  | string (text : String)
  | type (descriptor : String)
  | proto (returnType : String) (parameters : List String)
  | field (declaringType name type : String)
  | method (declaringType name returnType : String) (parameters : List String)
  | body (key : MethodKey) (behavior : Behavior) (form : EmptyListForm)
deriving DecidableEq, Repr

namespace Container

/-- The container after a step. -/
def growBy (container : Container) : Growth → Container
  | .string text => (container.internString text).2
  | .type descriptor => (container.internType descriptor).2
  | .proto returnType parameters => (container.internProto returnType parameters).2
  | .field declaringType name type => (container.internField declaringType name type).2
  | .method declaringType name returnType parameters =>
    (container.internMethod declaringType name returnType parameters).2
  | .body key behavior form => (container.replaceBody key behavior form).2

/-- The container after one step after another. -/
def grown (container : Container) (steps : List Growth) : Container :=
  steps.foldl growBy container

variable {before after : Container}

/-! ## What steps leave -/

/-- A step leaves everything but bodies, some of which it may replace. -/
theorem Replaced.growBy
    {bodies : MethodKey → Option Body}
    (replaced : Replaced bodies before after)
    (step : Growth) :
    ∃ newBodies, Replaced newBodies before (after.growBy step) := by
  cases step with
  | string text =>
      exact ⟨bodies, replaced.interned (after.interned_internString text)⟩
  | type descriptor =>
      exact ⟨bodies, replaced.interned (after.interned_internType descriptor)⟩
  | proto returnType parameters =>
      exact ⟨bodies, replaced.interned (after.interned_internProto returnType parameters)⟩
  | field declaringType name type =>
      exact ⟨bodies, replaced.interned (after.interned_internField declaringType name type)⟩
  | method declaringType name returnType parameters =>
      exact ⟨bodies,
        replaced.interned (after.interned_internMethod declaringType name returnType parameters)⟩
  | body key behavior form =>
      obtain ⟨pools, interned, result⟩ := after.replaceBody_spec key behavior form
      rw [Container.growBy]
      generalize after.replaceBody key behavior form = outcome at result
      obtain ⟨success, final⟩ := outcome
      cases success with
      | error reason =>
          obtain rfl : final = pools := result
          exact ⟨bodies, replaced.interned interned⟩
      | ok =>
          obtain ⟨old, body, isOld, sameIns, rfl, -⟩ := result
          have isOldThen : pools.body? key = some old := by
            rw [body?, method?, interned.classes]
            exact isOld
          exact ⟨_, (replaced.interned interned).setBody isOldThen sameIns⟩

/-- So do any number of steps. -/
theorem Replaced.grown
    {bodies : MethodKey → Option Body}
    (replaced : Replaced bodies before after)
    (steps : List Growth) :
    ∃ newBodies, Replaced newBodies before (after.grown steps) := by
  induction steps generalizing after bodies with
  | nil =>
      exact ⟨bodies, replaced⟩
  | cons step rest inductionHypothesis =>
      obtain ⟨middleBodies, replacedOnce⟩ := replaced.growBy step
      exact inductionHypothesis replacedOnce

end Container

/-! ## Lists that keep their order -/

/-- A list that ascends in numbers below the bound still does with its new numbers. -/
theorem KeepsOrder.sortOn_map
    {α β : Type}
    {count : Nat}
    {renumber : UInt32 → UInt32}
    (keeps : KeepsOrder count renumber)
    (key : α → UInt32)
    (newKey : β → UInt32)
    (change : α → β)
    (renumbers : ∀ x, newKey (change x) = renumber (key x))
    {list : List α}
    (inside : ∀ number ∈ list.map key, number.toNat < count)
    (ascends : (list.map key).Pairwise (· ≤ ·)) :
    sortOn newKey (list.map change) = list.map change := by
  refine sortOn_of_pairwise newKey (List.pairwise_map.mpr ?_)
  refine (List.pairwise_map.mp ascends).imp_of_mem fun _ isSecond inOrder => ?_
  rw [renumbers, renumbers]
  exact keeps.monotone (inside _ (List.mem_map_of_mem isSecond)) inOrder

/-- The same method under its new number.  It may have another body. -/
structure MemberMethod.Kept (renumber : RefMap) (old new : MemberMethod) : Prop where
  method : new.method = renumber .method old.method
  access : new.access = old.access

/-- Each list of members that ascends holds the same members in the same places, under their new
numbers. -/
structure ClassData.Kept (renumber : RefMap) (old new : ClassData) : Prop where
  staticFields :
    (old.staticFields.map (·.field)).Pairwise (· ≤ ·) →
      new.staticFields = old.staticFields.map (MemberField.mapRefs renumber)
  instanceFields :
    (old.instanceFields.map (·.field)).Pairwise (· ≤ ·) →
      new.instanceFields = old.instanceFields.map (MemberField.mapRefs renumber)
  methods :
    ∀ kind, ((old.methods kind).map (·.method)).Pairwise (· ≤ ·) →
      List.Forall₂ (MemberMethod.Kept renumber) (old.methods kind) (new.methods kind)

/-- The class keeps its members where they are, and its initial values, too. -/
structure ClassDef.Kept (renumber : RefMap) (old new : ClassDef) : Prop where
  data : Option.Rel (ClassData.Kept renumber) old.data new.data
  staticValues :
    new.staticValues =
      old.staticValues.map (List.map fun value => (value.mapRefs renumber).arranged)

/-- The numbers of all members are those of entries of pools of some sizes. -/
structure ClassData.Known (data : ClassData) (fields methods : Nat) : Prop where
  fields :
    ∀ member ∈ data.staticFields ++ data.instanceFields, member.field.toNat < fields
  methods : ∀ member ∈ data.allMethods, member.method.toNat < methods

/-- The members of a class are known if all references to them lead to entries. -/
theorem ClassData.known_of_leads
    {container : Container}
    (data : ClassData)
    (leads : ∀ ref ∈ data.memberRefs, container.Leads ref) :
    data.Known container.fields.size container.methods.size := by
  obtain ⟨fields, methods⟩ := forall_memberRefs_iff.mp leads
  exact ⟨fun member listed => (fields member listed).1,
    fun member listed => (methods member listed).1⟩

/-- The members of a class are in place in canonical order if the new numbers keep the order of
the old ones, whatever bodies are new. -/
theorem ClassData.kept_arranged
    {renumber : RefMap}
    {fields methods : Nat}
    (fieldsKeep : KeepsOrder fields (renumber .field))
    (methodsKeep : KeepsOrder methods (renumber .method))
    {data : ClassData}
    (known : data.Known fields methods)
    (bodies : MethodKey → Option Body)
    (classIndex : Nat) :
    data.Kept renumber ((data.withBodies bodies classIndex).mapRefs renumber).arranged := by
  obtain ⟨knownStatic, knownInstance⟩ := List.forall_mem_append.mp known.fields
  refine ⟨fun ascends => ?_, fun ascends => ?_, fun kind ascends => ?_⟩
  · exact fieldsKeep.sortOn_map MemberField.field MemberField.field (MemberField.mapRefs renumber)
      (fun _ => rfl) (List.forall_mem_map.mpr knownStatic) ascends
  · exact fieldsKeep.sortOn_map MemberField.field MemberField.field (MemberField.mapRefs renumber)
      (fun _ => rfl) (List.forall_mem_map.mpr knownInstance) ascends
  · have inside : ∀ number ∈ (data.methods kind).map (·.method), number.toNat < methods := by
      refine List.forall_mem_map.mpr fun member listed => known.methods member ?_
      cases kind with
      | direct => exact List.mem_append_left _ listed
      | virtual => exact List.mem_append_right _ listed
    have numbers := data.numbers_withBodies bodies classIndex kind
    have inOrder :
        sortOn MemberMethod.method
            (((data.withBodies bodies classIndex).methods kind).map
              (MemberMethod.mapRefs renumber)) =
          ((data.withBodies bodies classIndex).methods kind).map (MemberMethod.mapRefs renumber) :=
      methodsKeep.sortOn_map MemberMethod.method MemberMethod.method (MemberMethod.mapRefs renumber)
        (fun _ => rfl) (numbers ▸ inside) (numbers ▸ ascends)
    have written :
        (((data.withBodies bodies classIndex).mapRefs renumber).arranged).methods kind =
          ((data.withBodies bodies classIndex).methods kind).map (MemberMethod.mapRefs renumber) := by
      rw [← inOrder]
      cases kind <;> rfl
    rw [written, methods_withBodies, List.forall₂_map_right_iff, List.forall₂_iff_get]
    refine ⟨(List.length_mapIdx ..).symm, fun i _ _ => ?_⟩
    simp only [List.get_eq_getElem, List.getElem_mapIdx]
    exact ⟨rfl, rfl⟩

/-- A class keeps its members and initial values in place in canonical order under the same
conditions. -/
theorem ClassDef.kept_arranged
    {renumber : RefMap}
    {fields methods : Nat}
    (fieldsKeep : KeepsOrder fields (renumber .field))
    (methodsKeep : KeepsOrder methods (renumber .method))
    {classDef : ClassDef}
    (known : ∀ data ∈ classDef.data, data.Known fields methods)
    (bodies : MethodKey → Option Body)
    (classIndex : Nat) :
    classDef.Kept renumber ((classDef.withBodies bodies classIndex).mapRefs renumber).arranged := by
  constructor
  · cases isData : classDef.data with
    | none =>
        simp [ClassDef.arranged, ClassDef.mapRefs, ClassDef.withBodies, isData]
    | some data =>
        simp only [ClassDef.arranged, ClassDef.mapRefs, ClassDef.withBodies, isData, Option.map_some]
        exact .some
          (ClassData.kept_arranged fieldsKeep methodsKeep (known data isData) bodies classIndex)
  · simp only [ClassDef.arranged, ClassDef.mapRefs, ClassDef.withBodies, Option.map_map]
    refine Option.map_congr fun values _ => ?_
    rw [Function.comp, Value.arrangedItems_eq, Value.mapRefsItems_eq, List.map_map]
    rfl

namespace Container

variable {container : Container} {steps : List Growth}

/-- A container in canonical order that grows by any steps, and whose references lead to entries,
keeps the order of its entries when its pools are sorted again; and it is written with its members
where they were. -/
theorem grown_keeps_order
    (pools : ∀ ref ∈ container.poolRefs, container.Leads ref)
    (members :
      ∀ classDef ∈ container.classes, ∀ data ∈ classDef.data, ∀ ref ∈ data.memberRefs,
        container.Leads ref)
    (ordered : ∀ pool, (container.poolKeys pool).Pairwise (· ≤ ·))
    (numbered : (container.grown steps).Numbered) :
    (∀ pool,
        KeepsOrder (container.poolSize pool)
          ((Renumbering.ofContainer (container.grown steps)).map pool)) ∧
      ∀ image, (container.grown steps).encode = .ok image →
        ∃ written : Container,
          image = written.image ∧ written.hiddenApi = container.hiddenApi ∧
            List.Forall₂
              (ClassDef.Kept (Renumbering.ofContainer (container.grown steps)).map)
              container.classes written.classes := by
  obtain ⟨bodies, replaced⟩ := (Replaced.refl container).grown steps
  have known
      {classDef : ClassDef}
      (isClass : classDef ∈ container.classes)
      {data : ClassData}
      (isData : data ∈ classDef.data) :=
    data.known_of_leads (members classDef isClass data isData)
  have closed : container.Closed := by
    refine ⟨pools, fun key method found => ?_⟩
    obtain ⟨classDef, isClass, data, isData, listed⟩ := exists_of_method? found
    exact (known isClass isData).methods method listed
  have keeps := replaced.keepsOrder closed ordered numbered
  refine ⟨keeps, fun image encoded => ⟨(container.grown steps).canonical, ?_, ?_, ?_⟩⟩
  · exact (encode_eq_ok_iff.mp encoded).2.2.symm
  · exact replaced.hiddenApi
  · have classes :
        (container.grown steps).classes = container.classes.mapIdx (ClassDef.withBodies bodies) :=
      replaced.classes
    rw [classes_canonical, classes, List.forall₂_map_right_iff, List.forall₂_iff_get]
    refine ⟨(List.length_mapIdx ..).symm, fun i inside _ => ?_⟩
    simp only [List.get_eq_getElem, List.getElem_mapIdx]
    exact ClassDef.kept_arranged (keeps .field) (keeps .method)
      (fun data isData => known (List.getElem_mem inside) isData) bodies i

/-- A class in canonical order with two static fields and their initial values. -/
def listed : Container :=
  { empty with
    strings :=
      #[{ data := [0x49], utf16Length := 1 }, { data := [0x4c, 0x43, 0x3b], utf16Length := 3 },
        { data := [0x78], utf16Length := 1 }, { data := [0x7a], utf16Length := 1 }]
    types := #[0, 1]
    fields :=
      #[{ declaringType := 1, type := 0, name := 2 }, { declaringType := 1, type := 0, name := 3 }]
    classes :=
      [{ type := 1, access := 1, superclass := none, interfaces := [], sourceFile := none
         annotations := none
         data :=
          some
            { staticFields := [{ field := 0, access := 8 }, { field := 1, access := 8 }]
              instanceFields := [], directMethods := [], virtualMethods := [] }
         staticValues := some [.int 1, .int 2] }] }

theorem grown_keeps_order_listed :
    ((∀ ref ∈ listed.poolRefs, listed.Leads ref) ∧
        (∀ classDef ∈ listed.classes, ∀ data ∈ classDef.data, ∀ ref ∈ data.memberRefs,
            listed.Leads ref) ∧
          (∀ pool, (listed.poolKeys pool).Pairwise (· ≤ ·)) ∧
            (listed.grown [.field "LC;" "y" "I"]).Numbered) ∧
      KeepsOrder (listed.poolSize .field)
        ((Renumbering.ofContainer (listed.grown [.field "LC;" "y" "I"])).map .field) := by
  have pools : ∀ ref ∈ listed.poolRefs, listed.Leads ref := by
    unfold Leads
    decide +kernel
  have members :
      ∀ classDef ∈ listed.classes, ∀ data ∈ classDef.data, ∀ ref ∈ data.memberRefs,
        listed.Leads ref := by
    intro classDef isClass data isData
    obtain rfl := List.mem_singleton.mp isClass
    obtain rfl := Option.some.inj isData
    unfold Leads
    decide +kernel
  have ordered (pool : Pool) : (listed.poolKeys pool).Pairwise (· ≤ ·) := by
    cases pool <;> decide +kernel
  have numbered : (listed.grown [.field "LC;" "y" "I"]).Numbered := by
    constructor <;> decide +kernel
  exact ⟨⟨pools, members, ordered, numbered⟩,
    (grown_keeps_order pools members ordered numbered).1 .field⟩

/-! ## References that lead nowhere yet -/

/-- The class with a second field that differs from the first in its type, and the string of that
type does not exist. -/
def untold : Container :=
  { listed with
    types := #[0, 1, 4]
    fields :=
      #[{ declaringType := 1, type := 0, name := 2 }, { declaringType := 1, type := 2, name := 2 }] }

/-- The class without the second of the fields that it lists. -/
def unlisted : Container :=
  { listed with fields := #[{ declaringType := 1, type := 0, name := 2 }] }

/-- The class once the string of the type is there. -/
def told : Container :=
  { untold with strings := untold.strings.push { data := [0x41], utf16Length := 1 } }

/-- The class once there is a field under the number that it lists. -/
def adopted : Container :=
  { unlisted with
    strings := unlisted.strings.push { data := [0x61], utf16Length := 1 }
    fields := unlisted.fields.push { declaringType := 1, type := 0, name := 4 } }

theorem grown_untold : untold.grown [.string "A"] = told := by
  cbv

theorem grown_unlisted : unlisted.grown [.field "LC;" "a" "I"] = adopted := by
  cbv

/-- Where the first of the listed fields is written behind the second, members are not kept. -/
theorem not_kept_of_swapped
    {after : Container}
    {renumber : RefMap}
    (first : renumber .field 0 = 1)
    (written :
      after.classes.map (fun classDef => classDef.data.map ClassData.staticFields) =
        [some [{ field := 0, access := 8 }, { field := 1, access := 8 }]]) :
    ¬ List.Forall₂ (ClassDef.Kept renumber) listed.classes after.classes := by
  intro kept
  obtain ⟨classDef, rest, isKept, -, isAfter⟩ := List.forall₂_cons_left_iff.mp kept
  rw [isAfter, List.map_cons] at written
  obtain ⟨data, isData, fields⟩ := Option.map_eq_some_iff.mp (List.cons.inj written).1
  have keptData := isKept.data
  rw [isData] at keptData
  cases keptData with
  | some keptMembers =>
      have inPlace := keptMembers.staticFields (List.pairwise_pair.mpr (by decide))
      rw [fields] at inPlace
      have sameFirst := congrArg MemberField.field (List.cons.inj inPlace).1
      exact absurd (sameFirst.trans first) (by decide)

/-- The order of entries and members may be lost if references lead nowhere before a container
grows: a type whose string is interned later comes before the types in front of it, and a field
that is interned under the number that a class lists comes before the fields in front of it.  The
initial values, one and two, then belong to other fields. -/
theorem grown_swaps_members :
    ((∀ pool, (untold.poolKeys pool).Pairwise (· ≤ ·)) ∧
        (∀ pool, (unlisted.poolKeys pool).Pairwise (· ≤ ·))) ∧
      ((untold.grown [.string "A"]).encode =
          .ok (untold.grown [.string "A"]).canonical.image ∧
        ¬ KeepsOrder (untold.poolSize .type)
            ((Renumbering.ofContainer (untold.grown [.string "A"])).map .type) ∧
          ¬ List.Forall₂
              (ClassDef.Kept (Renumbering.ofContainer (untold.grown [.string "A"])).map)
              untold.classes (untold.grown [.string "A"]).canonical.classes) ∧
        (unlisted.grown [.field "LC;" "a" "I"]).encode =
            .ok (unlisted.grown [.field "LC;" "a" "I"]).canonical.image ∧
          ¬ List.Forall₂
              (ClassDef.Kept
                (Renumbering.ofContainer (unlisted.grown [.field "LC;" "a" "I"])).map)
              unlisted.classes (unlisted.grown [.field "LC;" "a" "I"]).canonical.classes := by
  have orderedUntold (pool : Pool) : (untold.poolKeys pool).Pairwise (· ≤ ·) := by
    cases pool <;> decide +kernel
  have orderedUnlisted (pool : Pool) : (unlisted.poolKeys pool).Pairwise (· ≤ ·) := by
    cases pool <;> decide +kernel
  refine ⟨⟨orderedUntold, orderedUnlisted⟩, ⟨?_, ?_, ?_⟩, ?_, ?_⟩
  · rw [grown_untold]
    exact encode_of_checks (by cbv) (by cbv)
  · intro keeps
    have inOrder := keeps 0 2 (by decide) (by decide)
    have first : (Renumbering.ofContainer told).map .type 0 = 1 := by cbv
    have third : (Renumbering.ofContainer told).map .type 2 = 0 := by cbv
    rw [grown_untold, first, third] at inOrder
    exact absurd inOrder (by decide)
  · rw [grown_untold]
    exact not_kept_of_swapped (by cbv) (by cbv)
  · rw [grown_unlisted]
    exact encode_of_checks (by cbv) (by cbv)
  · rw [grown_unlisted]
    exact not_kept_of_swapped (by cbv) (by cbv)

end Container

end DexPatch
