import DexPatch.Container.Intern
import DexPatch.Proofs.Entries
import DexPatch.Proofs.Texts

namespace DexPatch

/-!
# Interning adds entries one by one

Interning leaves every entry where it is: pools grow at their ends, and all
else stays.  Whatever is interned, they grow by single entries, each of which
refers to entries that are there and is none of them.  So what holds of all
pools after one entry more holds of them after any amount of interning.
-/

namespace Container

/-! ## Growing pools -/

/-- The pools of the first container are the beginnings of those of the second, and strings that
are new there have no zero byte.  The classes and the hidden-API section may differ; all else is the
same. -/
structure Extends (before after : Container) : Prop where
  strings : before.strings.toList <+: after.strings.toList
  types : before.types.toList <+: after.types.toList
  protos : before.protos.toList <+: after.protos.toList
  fields : before.fields.toList <+: after.fields.toList
  methods : before.methods.toList <+: after.methods.toList
  newStrings : ∀ string ∈ after.strings, string ∈ before.strings ∨ 0 ∉ string.data
  version : after.version = before.version
  callSites : after.callSites = before.callSites
  methodHandles : after.methodHandles = before.methodHandles

/-- The pools of a container have grown, and all else is the same. -/
structure Interned (before after : Container) : Prop extends Extends before after where
  classes : after.classes = before.classes
  hiddenApi : after.hiddenApi = before.hiddenApi

theorem Extends.refl (container : Container) : container.Extends container :=
  ⟨List.prefix_refl _, List.prefix_refl _, List.prefix_refl _, List.prefix_refl _,
    List.prefix_refl _, fun _ => .inl, rfl, rfl, rfl⟩

theorem Extends.trans
    {before middle after : Container}
    (first : before.Extends middle)
    (second : middle.Extends after) :
    before.Extends after where
  strings := first.strings.trans second.strings
  types := first.types.trans second.types
  protos := first.protos.trans second.protos
  fields := first.fields.trans second.fields
  methods := first.methods.trans second.methods
  newStrings := fun string member =>
    (second.newStrings string member).elim (first.newStrings string) .inr
  version := second.version.trans first.version
  callSites := second.callSites.trans first.callSites
  methodHandles := second.methodHandles.trans first.methodHandles

theorem Interned.refl (container : Container) : container.Interned container :=
  ⟨.refl container, rfl, rfl⟩

theorem Interned.trans
    {before middle after : Container}
    (first : before.Interned middle)
    (second : middle.Interned after) :
    before.Interned after :=
  ⟨first.toExtends.trans second.toExtends, second.classes.trans first.classes,
    second.hiddenApi.trans first.hiddenApi⟩

/-- An entry keeps its number when a pool grows. -/
theorem getElem?_of_grown
    {α : Type}
    {before after : Array α}
    (grown : before.toList <+: after.toList)
    {i : Nat}
    {entry : α}
    (found : before[i]? = some entry) :
    after[i]? = some entry := by
  obtain ⟨more, whole⟩ := grown
  have inside : i < before.toList.length := by
    simpa using (Array.getElem?_eq_some_iff.mp found).1
  rw [← Array.getElem?_toList, ← whole, List.getElem?_append_left inside, Array.getElem?_toList,
    found]

/-- Pools that all have numbers had them before they grew. -/
theorem Extends.numbered
    {before after : Container}
    (grown : before.Extends after)
    (numbered : after.Numbered) :
    before.Numbered := by
  exact ⟨Nat.le_trans grown.strings.length_le numbered.strings,
    Nat.le_trans grown.types.length_le numbered.types,
    Nat.le_trans grown.protos.length_le numbered.protos,
    Nat.le_trans grown.fields.length_le numbered.fields,
    Nat.le_trans grown.methods.length_le numbered.methods⟩

variable {container : Container}

theorem interned_push_string
    {string : PoolString}
    (zeroFree : 0 ∉ string.data) :
    container.Interned { container with strings := container.strings.push string } :=
  { Interned.refl container with
    strings := by simp
    newStrings := by
      intro other member
      rcases Array.mem_push.mp member with old | rfl
      · exact .inl old
      · exact .inr zeroFree }

theorem interned_push_type (string : UInt32) :
    container.Interned { container with types := container.types.push string } :=
  { Interned.refl container with types := by simp }

theorem interned_push_proto (proto : Proto) :
    container.Interned { container with protos := container.protos.push proto } :=
  { Interned.refl container with protos := by simp }

theorem interned_push_field (id : FieldId) :
    container.Interned { container with fields := container.fields.push id } :=
  { Interned.refl container with fields := by simp }

theorem interned_push_method (id : MethodId) :
    container.Interned { container with methods := container.methods.push id } :=
  { Interned.refl container with methods := by simp }

/-! ## One entry more -/

/-- A reference that leads to an entry still does when pools have grown. -/
theorem Extends.leads
    {before after : Container}
    (grown : before.Extends after)
    {ref : Reference}
    (leads : before.Leads ref) :
    after.Leads ref := by
  refine ⟨Nat.lt_of_lt_of_le leads.1 ?_, leads.2⟩
  cases ref.pool with
  | string => exact grown.strings.length_le
  | type => exact grown.types.length_le
  | proto => exact grown.protos.length_le
  | field => exact grown.fields.length_le
  | method => exact grown.methods.length_le
  | callSite => exact Nat.le_of_eq (congrArg List.length grown.callSites.symm)
  | methodHandle => exact Nat.le_of_eq (congrArg List.length grown.methodHandles.symm)
  | _ => exact Nat.le_refl 0

/-- The second container has one entry more than the first.  It refers to entries of the first, and
was none of them. -/
inductive OneMore : Container → Container → Prop where
  | string
      (container : Container)
      (text : String)
      (isNew : ∀ other ∈ container.strings, other.text ≠ text) :
      OneMore container { container with strings := container.strings.push (.ofText text) }
  | type
      (container : Container)
      (string : UInt32)
      (leads : container.Leads (.long .string string))
      (isNew : ∀ other ∈ container.types, other ≠ string) :
      OneMore container { container with types := container.types.push string }
  | proto
      (container : Container)
      (proto : Proto)
      (leads : ∀ ref ∈ proto.refs, container.Leads ref)
      (isNew :
        ∀ other ∈ container.protos,
          ¬ (other.returnType = proto.returnType ∧ other.parameters = proto.parameters)) :
      OneMore container { container with protos := container.protos.push proto }
  | field
      (container : Container)
      (id : FieldId)
      (leads : ∀ ref ∈ id.refs, container.Leads ref)
      (isNew : ∀ other ∈ container.fields, other ≠ id) :
      OneMore container { container with fields := container.fields.push id }
  | method
      (container : Container)
      (id : MethodId)
      (leads : ∀ ref ∈ id.refs, container.Leads ref)
      (isNew : ∀ other ∈ container.methods, other ≠ id) :
      OneMore container { container with methods := container.methods.push id }

/-- The second container has any number of entries more than the first, added one by one. -/
abbrev Accrued : Container → Container → Prop := Relation.ReflTransGen OneMore

theorem OneMore.interned
    {before after : Container}
    (oneMore : before.OneMore after) :
    before.Interned after := by
  cases oneMore with
  | string text => exact interned_push_string (PoolString.zero_notMem_ofText text)
  | type string => exact interned_push_type string
  | proto proto => exact interned_push_proto proto
  | field id => exact interned_push_field id
  | method id => exact interned_push_method id

theorem Accrued.interned
    {before after : Container}
    (accrued : before.Accrued after) :
    before.Interned after := by
  induction accrued with
  | refl => exact .refl before
  | tail _ oneMore inductionHypothesis => exact inductionHypothesis.trans oneMore.interned

/-! ## What holds of all pools -/

/-- A long reference leads to an entry if there are enough of them. -/
theorem leads_long_of_lt
    {pool : Pool}
    {index : UInt32}
    (inside : index.toNat < container.poolSize pool) :
    container.Leads (.long pool index) :=
  ⟨inside, fun short => absurd short Bool.false_ne_true⟩

/-- All references inside the pools lead to entries when there is one more entry. -/
theorem OneMore.poolRefs_lead
    {before after : Container}
    (oneMore : before.OneMore after)
    (lead : ∀ ref ∈ before.poolRefs, before.Leads ref) :
    ∀ ref ∈ after.poolRefs, after.Leads ref := by
  have grown := oneMore.interned.toExtends
  obtain ⟨types, protos, fields, methods⟩ :=
    forall_poolRefs_iff.mp fun ref refers => grown.leads (lead ref refers)
  refine forall_poolRefs_iff.mpr ?_
  cases oneMore with
  | string text isNew =>
      exact ⟨types, protos, fields, methods⟩
  | type string leads isNew =>
      exact ⟨Array.forall_mem_push.mpr ⟨grown.leads leads, types⟩, protos, fields, methods⟩
  | proto proto leads isNew =>
      have new := fun ref refers => grown.leads (leads ref refers)
      exact ⟨types, Array.forall_mem_push.mpr ⟨new, protos⟩, fields, methods⟩
  | field id leads isNew =>
      have new := fun ref refers => grown.leads (leads ref refers)
      exact ⟨types, protos, Array.forall_mem_push.mpr ⟨new, fields⟩, methods⟩
  | method id leads isNew =>
      have new := fun ref refers => grown.leads (leads ref refers)
      exact ⟨types, protos, fields, Array.forall_mem_push.mpr ⟨new, methods⟩⟩

theorem Accrued.poolRefs_lead
    {before after : Container}
    (accrued : before.Accrued after)
    (lead : ∀ ref ∈ before.poolRefs, before.Leads ref) :
    ∀ ref ∈ after.poolRefs, after.Leads ref := by
  induction accrued with
  | refl => exact lead
  | tail _ oneMore inductionHypothesis => exact oneMore.poolRefs_lead inductionHypothesis

/-- No pool has an entry twice.  Two strings differ in what they read as, and two prototypes in what
they return or take. -/
structure Distinct (container : Container) : Prop where
  strings : container.strings.toList.Pairwise fun one other => one.text ≠ other.text
  types : container.types.toList.Pairwise (· ≠ ·)
  protos :
    container.protos.toList.Pairwise fun one other =>
      ¬ (one.returnType = other.returnType ∧ one.parameters = other.parameters)
  fields : container.fields.toList.Pairwise (· ≠ ·)
  methods : container.methods.toList.Pairwise (· ≠ ·)

/-- Entries stay apart if the one that is put at their end is apart from each of them. -/
theorem pairwise_push
    {α : Type}
    {apart : α → α → Prop}
    {entries : Array α}
    {entry : α}
    (pairwise : entries.toList.Pairwise apart)
    (isNew : ∀ other ∈ entries, apart other entry) :
    (entries.push entry).toList.Pairwise apart := by
  rw [Array.toList_push, List.pairwise_append]
  refine ⟨pairwise, List.pairwise_singleton _ _, fun other member last isLast => ?_⟩
  rw [List.mem_singleton.mp isLast]
  exact isNew other (Array.mem_toList_iff.mp member)

theorem OneMore.distinct
    {before after : Container}
    (oneMore : before.OneMore after)
    (distinct : before.Distinct) :
    after.Distinct := by
  cases oneMore with
  | string text isNew =>
      refine { distinct with strings := pairwise_push distinct.strings ?_ }
      rwa [PoolString.text_ofText]
  | type string leads isNew =>
      exact { distinct with types := pairwise_push distinct.types isNew }
  | proto proto leads isNew =>
      exact { distinct with protos := pairwise_push distinct.protos isNew }
  | field id leads isNew =>
      exact { distinct with fields := pairwise_push distinct.fields isNew }
  | method id leads isNew =>
      exact { distinct with methods := pairwise_push distinct.methods isNew }

theorem Accrued.distinct
    {before after : Container}
    (accrued : before.Accrued after)
    (distinct : before.Distinct) :
    after.Distinct := by
  induction accrued with
  | refl => exact distinct
  | tail _ oneMore inductionHypothesis => exact oneMore.distinct inductionHypothesis

/-! ## Numbers given out lead to entries -/

/-- What the number of a place wraps around to is the number of a place before it. -/
theorem leads_long_ofNat
    {pool : Pool}
    {place : Nat}
    (inside : place < container.poolSize pool) :
    container.Leads (.long pool (UInt32.ofNat place)) := by
  refine leads_long_of_lt (Nat.lt_of_le_of_lt ?_ inside)
  rw [UInt32.toNat_ofNat']
  exact Nat.mod_le place _

/-- A place that was found is one of the entries. -/
theorem lt_of_findIdx?
    {α : Type}
    {entries : Array α}
    {holds : α → Bool}
    {place : Nat}
    (found : entries.findIdx? holds = some place) :
    place < entries.size :=
  (Array.findIdx?_eq_some_iff_getElem.mp found).1

theorem leads_internString (container : Container) (text : String) :
    (container.internString text).2.Leads (.long .string (container.internString text).1) := by
  rw [internString]
  split
  · next found =>
    obtain ⟨place, isFirst, rfl⟩ := Option.map_eq_some_iff.mp found
    exact leads_long_ofNat (lt_of_findIdx? isFirst)
  · exact leads_long_ofNat (by simp [poolSize])

theorem leads_internType (container : Container) (descriptor : String) :
    (container.internType descriptor).2.Leads
      (.long .type (container.internType descriptor).1) := by
  rw [internType]
  dsimp only
  split
  · next isFirst => exact leads_long_ofNat (lt_of_findIdx? isFirst)
  · exact leads_long_ofNat (by simp [poolSize])

theorem leads_internProto
    (container : Container)
    (returnType : String)
    (parameters : List String) :
    (container.internProto returnType parameters).2.Leads
      (.long .proto (container.internProto returnType parameters).1) := by
  rw [internProto]
  dsimp only
  split
  · next isFirst => exact leads_long_ofNat (lt_of_findIdx? isFirst)
  · exact leads_long_ofNat (by simp [poolSize])

theorem leads_internField
    (container : Container)
    (declaringType name type : String) :
    (container.internField declaringType name type).2.Leads
      (.long .field (container.internField declaringType name type).1) := by
  rw [internField]
  dsimp only
  split
  · next isFirst => exact leads_long_ofNat (lt_of_findIdx? isFirst)
  · exact leads_long_ofNat (by simp [poolSize])

theorem leads_internMethod
    (container : Container)
    (declaringType name returnType : String)
    (parameters : List String) :
    (container.internMethod declaringType name returnType parameters).2.Leads
      (.long .method (container.internMethod declaringType name returnType parameters).1) := by
  rw [internMethod]
  dsimp only
  split
  · next isFirst => exact leads_long_ofNat (lt_of_findIdx? isFirst)
  · exact leads_long_ofNat (by simp [poolSize])

/-! ## Interning adds what is not there -/

/-- Interning a string leaves the prototypes. -/
theorem protos_internString (container : Container) (text : String) :
    (container.internString text).2.protos = container.protos := by
  rw [internString]
  split <;> rfl

/-- What was not found is none of the entries. -/
theorem ne_of_findIdx?
    {α : Type}
    [DecidableEq α]
    {entries : Array α}
    {entry : α}
    (missing : entries.findIdx? (· == entry) = none) :
    ∀ other ∈ entries, other ≠ entry :=
  fun other member => ne_of_beq_false (Array.findIdx?_eq_none_iff.mp missing other member)

theorem accrued_internString (container : Container) (text : String) :
    container.Accrued (container.internString text).2 := by
  rw [internString]
  split
  · exact .refl
  · next missing =>
    have isNew := Array.findIdx?_eq_none_iff.mp (Option.map_eq_none_iff.mp missing)
    exact .single (.string container text fun other member => ne_of_beq_false (isNew other member))

theorem accrued_internType (container : Container) (descriptor : String) :
    container.Accrued (container.internType descriptor).2 := by
  have string := container.accrued_internString descriptor
  rw [internType]
  dsimp only
  split
  · exact string
  · next missing =>
    exact string.tail
      (.type _ _ (container.leads_internString descriptor) (ne_of_findIdx? missing))

theorem accrued_internTypes (container : Container) (descriptors : List String) :
    container.Accrued (container.internTypes descriptors).2 := by
  induction descriptors generalizing container with
  | nil =>
      exact .refl
  | cons descriptor rest inductionHypothesis =>
      exact (container.accrued_internType descriptor).trans (inductionHypothesis _)

theorem leads_internTypes (container : Container) (descriptors : List String) :
    ∀ type ∈ (container.internTypes descriptors).1,
      (container.internTypes descriptors).2.Leads (.long .type type) := by
  induction descriptors generalizing container with
  | nil =>
      simp [internTypes]
  | cons descriptor rest inductionHypothesis =>
      have later := (container.internType descriptor).2.accrued_internTypes rest
      exact List.forall_mem_cons.mpr
        ⟨later.interned.leads (container.leads_internType descriptor), inductionHypothesis _⟩

theorem accrued_internProto
    (container : Container)
    (returnType : String)
    (parameters : List String) :
    container.Accrued (container.internProto returnType parameters).2 := by
  have returned := container.accrued_internType returnType
  have taken := (container.internType returnType).2.accrued_internTypes parameters
  have string :=
    ((container.internType returnType).2.internTypes parameters).2.accrued_internString
      (shorty returnType parameters)
  have sameProtos :=
    ((container.internType returnType).2.internTypes parameters).2.protos_internString
      (shorty returnType parameters)
  rw [internProto]
  dsimp only
  split
  · exact returned.trans taken
  · next missing =>
    refine ((returned.trans taken).trans string).tail (.proto _ _ ?_ ?_)
    · refine Proto.forall_mem_refs_iff.mpr
        ⟨leads_internString _ _, fun type isParameter => ?_, ?_⟩
      · exact string.interned.leads (leads_internTypes _ _ type isParameter)
      · exact (taken.interned.trans string.interned).leads (container.leads_internType returnType)
    · rw [sameProtos]
      intro other member same
      have differs := Array.findIdx?_eq_none_iff.mp missing other member
      rw [same.1, same.2] at differs
      simp at differs

theorem accrued_internField
    (container : Container)
    (declaringType name type : String) :
    container.Accrued (container.internField declaringType name type).2 := by
  have declaring := container.accrued_internType declaringType
  have typed := (container.internType declaringType).2.accrued_internType type
  have named :=
    ((container.internType declaringType).2.internType type).2.accrued_internString name
  rw [internField]
  dsimp only
  split
  · exact (declaring.trans typed).trans named
  · next missing =>
    refine ((declaring.trans typed).trans named).tail (.field _ _ ?_ (ne_of_findIdx? missing))
    refine FieldId.forall_mem_refs_iff.mpr ⟨?_, leads_internString _ _, ?_⟩
    · exact (typed.interned.trans named.interned).leads (container.leads_internType declaringType)
    · exact named.interned.leads (leads_internType _ _)

theorem accrued_internMethod
    (container : Container)
    (declaringType name returnType : String)
    (parameters : List String) :
    container.Accrued (container.internMethod declaringType name returnType parameters).2 := by
  have declaring := container.accrued_internType declaringType
  have typed := (container.internType declaringType).2.accrued_internProto returnType parameters
  have named :=
    ((container.internType declaringType).2.internProto returnType
      parameters).2.accrued_internString name
  rw [internMethod]
  dsimp only
  split
  · exact (declaring.trans typed).trans named
  · next missing =>
    refine ((declaring.trans typed).trans named).tail (.method _ _ ?_ (ne_of_findIdx? missing))
    refine MethodId.forall_mem_refs_iff.mpr ⟨?_, leads_internString _ _, ?_⟩
    · exact (typed.interned.trans named.interned).leads (container.leads_internType declaringType)
    · exact named.interned.leads (leads_internProto _ _ _)

/-! ## Interning leaves all else -/

theorem interned_internString (container : Container) (text : String) :
    container.Interned (container.internString text).2 :=
  (container.accrued_internString text).interned

theorem interned_internType (container : Container) (descriptor : String) :
    container.Interned (container.internType descriptor).2 :=
  (container.accrued_internType descriptor).interned

theorem interned_internTypes (container : Container) (descriptors : List String) :
    container.Interned (container.internTypes descriptors).2 :=
  (container.accrued_internTypes descriptors).interned

theorem interned_internProto
    (container : Container)
    (returnType : String)
    (parameters : List String) :
    container.Interned (container.internProto returnType parameters).2 :=
  (container.accrued_internProto returnType parameters).interned

theorem interned_internField
    (container : Container)
    (declaringType name type : String) :
    container.Interned (container.internField declaringType name type).2 :=
  (container.accrued_internField declaringType name type).interned

theorem interned_internMethod
    (container : Container)
    (declaringType name returnType : String)
    (parameters : List String) :
    container.Interned (container.internMethod declaringType name returnType parameters).2 :=
  (container.accrued_internMethod declaringType name returnType parameters).interned

end Container

end DexPatch
