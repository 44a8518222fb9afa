import DexPatch.Proofs.Locating

namespace DexPatch.Container

/-!
# Finding interned entries

Each way of interning has a search beside it: what the search finds is not
interned again, and what has been interned is found.  A search goes on finding
what it has found when pools grow, so to intern twice is to intern once.
-/

/-- The first place where a condition holds stays the first when a pool grows. -/
theorem findIdx?_of_grown
    {α : Type}
    {before after : Array α}
    (grown : before.toList <+: after.toList)
    {holds : α → Bool}
    {i : Nat}
    (found : before.findIdx? holds = some i) :
    after.findIdx? holds = some i := by
  obtain ⟨before⟩ := before
  obtain ⟨after⟩ := after
  rw [List.findIdx?_toArray] at found ⊢
  exact grown.findIdx?_eq_some found

/-- The search and the interning agree, and neither cares for the classes. -/
structure Interns
    {α : Type}
    (find : Container → Option α)
    (intern : Container → α × Container) :
    Prop where
  grown : ∀ container : Container, container.Interned (intern container).2
  found : ∀ container : Container, find (intern container).2 = some (intern container).1
  ofFound :
    ∀ (container : Container) (entry : α),
      find container = some entry → intern container = (entry, container)
  kept :
    ∀ (before after : Container) (entry : α),
      before.Extends after → find before = some entry → find after = some entry
  besides :
    ∀ (container : Container) (classes : List ClassDef),
      intern { container with classes } =
        ((intern container).1, { (intern container).2 with classes })

namespace Interns

/-! ## Interning one entry after the other -/

section Combine

variable {α β : Type}

/-- Nothing is interned for what is known. -/
theorem known (entry : α) :
    Interns (fun _ => some entry) (fun container => (entry, container)) where
  grown := .refl
  found := fun _ => rfl
  ofFound := fun _ _ same => by rw [Option.some.inj same]
  kept := fun _ _ _ _ same => same
  besides := fun _ _ => rfl

/-- One entry is interned, and then another that depends on it. -/
theorem andThen
    {find : Container → Option α}
    {intern : Container → α × Container}
    {findNext : α → Container → Option β}
    {internNext : α → Container → β × Container}
    (first : Interns find intern)
    (next : ∀ entry, Interns (findNext entry) (internNext entry)) :
    Interns (fun container => (find container).bind fun entry => findNext entry container)
      (fun container => internNext (intern container).1 (intern container).2) where
  grown := fun container => (first.grown container).trans ((next _).grown _)
  found := fun container => by
    have later := (next (intern container).1).grown (intern container).2
    rw [first.kept _ _ _ later.toExtends (first.found container), Option.bind_some]
    exact (next _).found _
  ofFound := fun container entry found => by
    obtain ⟨part, isPart, isEntry⟩ := Option.bind_eq_some_iff.mp found
    rw [first.ofFound container part isPart]
    exact (next part).ofFound container entry isEntry
  kept := fun before after entry grown found => by
    obtain ⟨part, isPart, isEntry⟩ := Option.bind_eq_some_iff.mp found
    rw [first.kept before after part grown isPart, Option.bind_some]
    exact (next part).kept before after entry grown isEntry
  besides := fun container classes => by
    rw [first.besides, (next _).besides]

/-- An entry that a pool does not have is put at its end. -/
theorem entry
    (pool : Container → Array β)
    (holds : β → Bool)
    (add : Container → UInt32 × Container)
    (grows :
      ∀ before after : Container,
        before.Extends after → (pool before).toList <+: (pool after).toList)
    (same :
      ∀ (container : Container) (classes : List ClassDef),
        pool { container with classes } = pool container)
    (grown : ∀ container : Container, container.Interned (add container).2)
    (added :
      ∀ container : Container, ∃ entry,
        holds entry = true ∧ pool (add container).2 = (pool container).push entry ∧
          (add container).1 = UInt32.ofNat (pool container).size)
    (besides :
      ∀ (container : Container) (classes : List ClassDef),
        add { container with classes } = ((add container).1, { (add container).2 with classes })) :
    Interns (fun container => ((pool container).findIdx? holds).map UInt32.ofNat)
      (fun container =>
        match (pool container).findIdx? holds with
        | some index => (UInt32.ofNat index, container)
        | none => add container) where
  grown := fun container => by
    split
    · exact .refl container
    · exact grown container
  found := fun container => by
    split
    · next index isFirst =>
      rw [isFirst, Option.map_some]
    · next isNew =>
      obtain ⟨entry, here, isPool, isNumber⟩ := added container
      rw [isPool, Array.findIdx?_push, isNew, Option.none_or, if_pos here, Option.map_some,
        isNumber]
  ofFound := fun container entry found => by
    obtain ⟨index, isFirst, rfl⟩ := Option.map_eq_some_iff.mp found
    rw [isFirst]
  kept := fun before after entry extended found => by
    obtain ⟨index, isFirst, rfl⟩ := Option.map_eq_some_iff.mp found
    rw [findIdx?_of_grown (grows before after extended) isFirst, Option.map_some]
  besides := fun container classes => by
    rw [same]
    split
    · rfl
    · exact besides container classes

end Combine

/-! ## What is found is not interned again -/

section Laws

variable
  {α : Type} {find : Container → Option α} {intern : Container → α × Container}
  (interns : Interns find intern)

include interns

/-- What has been interned is there for good: to intern it again is to find it. -/
theorem again
    {container after : Container}
    (grown : (intern container).2.Extends after) :
    intern after = ((intern container).1, after) :=
  interns.ofFound _ _ (interns.kept _ _ _ grown (interns.found container))

/-- Nothing is interned exactly if the entry was there. -/
theorem same_iff (container : Container) :
    (intern container).2 = container ↔ (find container).isSome := by
  constructor
  · intro same
    have found := interns.found container
    rw [same] at found
    rw [found]
    rfl
  · intro isSome
    obtain ⟨entry, found⟩ := Option.isSome_iff_exists.mp isSome
    rw [interns.ofFound container entry found]

/-- To intern is the same with other bodies in the classes. -/
theorem withBodies
    (container : Container)
    (bodies : MethodKey → Option Body) :
    intern (container.withBodies bodies) =
      ((intern container).1, (intern container).2.withBodies bodies) := by
  have interned := interns.besides container (container.classes.mapIdx (ClassDef.withBodies bodies))
  rw [Container.withBodies, interned, Container.withBodies, (interns.grown container).classes]

end Laws

end Interns

/-! ## The searches -/

/-- A type is found by its string. -/
theorem findType?_eq (container : Container) (descriptor : String) :
    container.findType? descriptor =
      (container.findString? descriptor).bind fun string =>
        (container.types.findIdx? (· == string)).map UInt32.ofNat := by
  rw [findType?]
  cases container.findString? descriptor <;> rfl

/-- The numbers of the first types with the descriptors. -/
def findTypes? (container : Container) : List String → Option (List UInt32)
  | [] => some []
  | descriptor :: rest =>
    (container.findType? descriptor).bind fun type =>
      (container.findTypes? rest).bind fun types => some (type :: types)

/-- The number of the first prototype with the return type and the parameters. -/
def findProto? (container : Container) (returnType : String) (parameters : List String) :
    Option UInt32 :=
  (container.findType? returnType).bind fun returnIndex =>
    (container.findTypes? parameters).bind fun parameterIndices =>
      (container.protos.findIdx? fun proto =>
        proto.returnType == returnIndex && proto.parameters == parameterIndices).map UInt32.ofNat

/-- The number of the first field with the class, the name and the type. -/
def findField? (container : Container) (declaringType name type : String) : Option UInt32 :=
  (container.findType? declaringType).bind fun declaringIndex =>
    (container.findType? type).bind fun typeIndex =>
      (container.findString? name).bind fun nameIndex =>
        (container.fields.findIdx?
          (· == { declaringType := declaringIndex, type := typeIndex, name := nameIndex })).map
            UInt32.ofNat

/-- The number of the first method with the class, the name, the return type and the
parameters. -/
def findMethod? (container : Container) (declaringType name returnType : String)
    (parameters : List String) : Option UInt32 :=
  (container.findType? declaringType).bind fun declaringIndex =>
    (container.findProto? returnType parameters).bind fun protoIndex =>
      (container.findString? name).bind fun nameIndex =>
        (container.methods.findIdx?
          (· == { declaringType := declaringIndex, proto := protoIndex, name := nameIndex })).map
            UInt32.ofNat

/-! ## Each entry that is interned is found -/

theorem interns_string (text : String) :
    Interns (·.findString? text) (·.internString text) := by
  have isEntry :
      (fun container : Container => container.internString text) =
        fun container =>
          match container.strings.findIdx? (·.reads text) with
          | some index => (UInt32.ofNat index, container)
          | none =>
            (UInt32.ofNat container.strings.size,
              { container with strings := container.strings.push (PoolString.ofText text) }) := by
    funext container
    rw [internString, findString?]
    cases container.strings.findIdx? (·.reads text) <;> rfl
  rw [isEntry]
  exact .entry strings _ _ (fun _ _ grown => grown.strings) (fun _ _ => rfl)
    (fun _ => interned_push_string (PoolString.zero_notMem_ofText text))
    (fun _ => ⟨_, beq_iff_eq.mpr (PoolString.text_ofText text), rfl, rfl⟩) (fun _ _ => rfl)

theorem interns_type (descriptor : String) :
    Interns (·.findType? descriptor) (·.internType descriptor) := by
  simp only [findType?_eq]
  exact (interns_string descriptor).andThen fun string =>
    .entry types (· == string)
      (fun container =>
        (UInt32.ofNat container.types.size,
          { container with types := container.types.push string }))
      (fun _ _ grown => grown.types) (fun _ _ => rfl) (fun _ => interned_push_type string)
      (fun _ => ⟨string, beq_self_eq_true string, rfl, rfl⟩) (fun _ _ => rfl)

theorem interns_types (descriptors : List String) :
    Interns (·.findTypes? descriptors) (·.internTypes descriptors) := by
  induction descriptors with
  | nil =>
      exact .known []
  | cons descriptor rest inductionHypothesis =>
      exact (interns_type descriptor).andThen fun type =>
        inductionHypothesis.andThen fun types => .known (type :: types)

/-- A new prototype comes with its shorty. -/
theorem interns_proto
    (returnType : String)
    (parameters : List String) :
    Interns (·.findProto? returnType parameters) (·.internProto returnType parameters) :=
  (interns_type returnType).andThen fun returnIndex =>
    (interns_types parameters).andThen fun parameterIndices =>
      .entry protos
        (fun proto => proto.returnType == returnIndex && proto.parameters == parameterIndices)
        (fun container =>
          let shortyInterned := container.internString (shorty returnType parameters)
          (UInt32.ofNat shortyInterned.2.protos.size,
            { shortyInterned.2 with
              protos := shortyInterned.2.protos.push
                { shorty := shortyInterned.1, returnType := returnIndex
                  parameters := parameterIndices } }))
        (fun _ _ grown => grown.protos) (fun _ _ => rfl)
        (fun container =>
          (container.interned_internString (shorty returnType parameters)).trans
            (interned_push_proto _))
        (fun container => by
          have sameProtos := container.protos_internString (shorty returnType parameters)
          exact ⟨_, by simp, congrArg (Array.push · _) sameProtos,
            congrArg (fun pool : Array Proto => UInt32.ofNat pool.size) sameProtos⟩)
        (fun container classes => by
          dsimp only
          rw [(interns_string (shorty returnType parameters)).besides])

theorem interns_field (declaringType name type : String) :
    Interns (·.findField? declaringType name type) (·.internField declaringType name type) :=
  (interns_type declaringType).andThen fun declaringIndex =>
    (interns_type type).andThen fun typeIndex =>
      (interns_string name).andThen fun nameIndex =>
        .entry fields
          (· == { declaringType := declaringIndex, type := typeIndex, name := nameIndex })
          (fun container =>
            (UInt32.ofNat container.fields.size,
              { container with
                fields := container.fields.push
                  { declaringType := declaringIndex, type := typeIndex, name := nameIndex } }))
          (fun _ _ grown => grown.fields) (fun _ _ => rfl) (fun _ => interned_push_field _)
          (fun _ => ⟨_, beq_self_eq_true _, rfl, rfl⟩) (fun _ _ => rfl)

theorem interns_method
    (declaringType name returnType : String)
    (parameters : List String) :
    Interns (·.findMethod? declaringType name returnType parameters)
      (·.internMethod declaringType name returnType parameters) :=
  (interns_type declaringType).andThen fun declaringIndex =>
    (interns_proto returnType parameters).andThen fun protoIndex =>
      (interns_string name).andThen fun nameIndex =>
        .entry methods
          (· == { declaringType := declaringIndex, proto := protoIndex, name := nameIndex })
          (fun container =>
            (UInt32.ofNat container.methods.size,
              { container with
                methods := container.methods.push
                  { declaringType := declaringIndex, proto := protoIndex, name := nameIndex } }))
          (fun _ _ grown => grown.methods) (fun _ _ => rfl) (fun _ => interned_push_method _)
          (fun _ => ⟨_, beq_self_eq_true _, rfl, rfl⟩) (fun _ _ => rfl)

end DexPatch.Container
