import DexPatch.Proofs.Patched
import DexPatch.Proofs.Pruned

namespace DexPatch

/-!
# Guards and debug information read back

A container may have bodies that no image can hold: more try ranges than 16
bits can count, handlers that catch nothing, and special debug steps with the
opcode of another step.  They are encoded like all others.  The try ranges and
debug steps of all bodies are read back as they were only if there are none of
these where a try range leads, and always if there are none at all.
-/

/-! ## Bodies that an image can hold -/

/-- An image can hold the try ranges and the debug steps of the body, and some of its handlers. -/
structure Body.Holdable (handlers : List CatchHandler) (body : Body) : Prop where
  steps : ∀ debug ∈ body.debug, ∀ op ∈ debug.ops, op.Shaped
  fewTries : body.tries.length < 65536
  handlers : ∀ handler ∈ handlers, handler.Shaped

/-- The handlers that the try ranges of the body lead to. -/
def Body.usedHandlers (body : Body) : List CatchHandler :=
  body.tries.filterMap fun range => body.handlers[range.handler]?

/-- A body that can be held with the handlers that are written is shaped without the others. -/
theorem Body.Holdable.shaped_pruned
    {body : Body}
    (holdable : body.Holdable body.pruned.handlers) :
    body.pruned.Shaped where
  steps := holdable.steps
  fewTries := holdable.fewTries
  handlers := holdable.handlers
  unguarded := fun none => by
    have unguarded : body.tries = [] := none
    simp [pruned, unguarded]

/-! ## Bodies that say the same -/

/-- The second body guards the same ranges by the same handlers as the first, and has the same debug
information. -/
structure Body.Keeps (renumber : RefMap) (old new : Body) : Prop where
  tries :
    List.Forall₂
      (fun range again =>
        again.start = range.start ∧ again.length = range.length ∧
          ∃ handler ∈ old.handlers[range.handler]?,
            new.handlers[again.handler]? = some (handler.mapRefs renumber))
      old.tries new.tries
  debug : new.debug = old.debug.map (DebugInfo.mapRefs renumber)

/-- The same method, whose body says the same as before if it guards ranges or has debug
information. -/
structure MemberMethod.KeepsBody (renumber : RefMap) (old new : MemberMethod) : Prop where
  method : new.method = renumber .method old.method
  body :
    ∀ body ∈ old.body, body.tries ≠ [] ∨ body.debug.isSome →
      ∃ again ∈ new.body, body.Keeps renumber again

/-- The methods of one kind of a class. -/
def ClassDef.methods (classDef : ClassDef) (kind : MethodKind) : List MemberMethod :=
  (classDef.data.map (·.methods kind)).getD []

/-- The same class, whose methods keep their bodies.  They may be listed in another order. -/
structure ClassDef.KeepsBodies (renumber : RefMap) (old new : ClassDef) : Prop where
  type : new.type = renumber .type old.type
  methods :
    ∀ kind,
      ReorderedList (MemberMethod.KeepsBody renumber) (old.methods kind) (new.methods kind)

/-- The same classes, whose methods keep their bodies, under new numbers. -/
structure Container.KeepsBodies (renumber : RefMap) (before after : Container) : Prop extends
    Follows renumber before after where
  classes : List.Forall₂ (ClassDef.KeepsBodies renumber) before.classes after.classes

variable {renumber : RefMap}

/-! ## What is held is kept -/

/-- A body keeps what it says when it is renumbered without the handlers that nothing leads to. -/
theorem Body.keeps_pruned
    {body : Body}
    (placed : ∀ range ∈ body.tries, range.handler < body.handlers.length) :
    body.Keeps renumber (body.pruned.mapRefs renumber) where
  tries := List.forall₂_same.mpr fun range member => by
    have found := List.getElem?_eq_getElem (placed range member)
    have guarded : body.tries ≠ [] := List.ne_nil_of_mem member
    refine ⟨rfl, rfl, _, found, ?_⟩
    rw [pruned_of_guarded guarded]
    simp [mapRefs, found]
  debug := rfl

/-- So does the method that the body is of. -/
theorem MemberMethod.keepsBody_pruned
    {method : MemberMethod}
    (placed :
      ∀ body ∈ method.body, ∀ range ∈ body.tries, range.handler < body.handlers.length) :
    method.KeepsBody renumber ((method.mapBody Body.pruned).mapRefs renumber) where
  method := rfl
  body := fun body isBody _ => by
    refine ⟨body.pruned.mapRefs renumber, ?_, Body.keeps_pruned (placed body isBody)⟩
    simp [mapRefs, mapBody, Option.mem_def.mp isBody]

theorem ClassDef.mem_allMethods_iff
    {classDef : ClassDef}
    {method : MemberMethod} :
    method ∈ classDef.allMethods ↔ ∃ kind, method ∈ classDef.methods kind := by
  have kinds {holds : MethodKind → Prop} : (∃ kind, holds kind) ↔ holds .direct ∨ holds .virtual :=
    ⟨fun ⟨kind, here⟩ => by cases kind <;> simp [here], fun either => either.elim (⟨_, ·⟩) (⟨_, ·⟩)⟩
  simp only [kinds, methods, allMethods]
  cases classDef.data with
  | none => simp
  | some data => exact List.mem_append

/-- The methods of a class that is reordered are. -/
theorem ClassDef.Reordered.methods
    {old new : ClassDef}
    (reordered : old.Reordered new)
    (kind : MethodKind) :
    (old.methods kind).Perm (new.methods kind) := by
  have data := reordered.data
  rw [ClassDef.methods, ClassDef.methods]
  generalize old.data = before at data
  generalize new.data = after at data
  cases data with
  | none =>
      exact .nil
  | some members =>
      cases kind with
      | direct => exact members.directMethods
      | virtual => exact members.virtualMethods

/-- A class that is renumbered without the handlers that nothing leads to, and reordered, keeps all
bodies. -/
theorem ClassDef.Reordered.keepsBodies
    {old new : ClassDef}
    (reordered : ((old.mapBodies Body.pruned).mapRefs renumber).Reordered new)
    (placed :
      ∀ method ∈ old.allMethods, ∀ body ∈ method.body, ∀ range ∈ body.tries,
        range.handler < body.handlers.length) :
    old.KeepsBodies renumber new where
  type := reordered.type
  methods := fun kind => by
    have changed :
        ((old.mapBodies Body.pruned).mapRefs renumber).methods kind =
          (old.methods kind).map fun method => (method.mapBody Body.pruned).mapRefs renumber := by
      rw [ClassDef.methods, ClassDef.methods, mapRefs, mapBodies]
      cases old.data with
      | none =>
          rfl
      | some data =>
          cases kind <;> exact List.map_map
    refine ⟨_, ?_, reordered.methods kind⟩
    rw [changed, List.forall₂_map_right_iff]
    exact List.forall₂_same.mpr fun method member =>
      MemberMethod.keepsBody_pruned (placed method (mem_allMethods_iff.mpr ⟨kind, member⟩))

namespace Container

variable {container result : Container}

/-- What says the same as a container without the handlers that nothing leads to keeps all its
bodies. -/
theorem Permuted.keepsBodies
    (permuted : container.pruned.Permuted renumber result)
    (placed :
      ∀ classDef ∈ container.classes, ∀ method ∈ classDef.allMethods, ∀ body ∈ method.body,
        ∀ range ∈ body.tries, range.handler < body.handlers.length) :
    container.KeepsBodies renumber result where
  strings := permuted.strings
  types := permuted.types
  protos := permuted.protos
  fields := permuted.fields
  methods := permuted.methods
  classes := by
    have classes := permuted.classes
    rw [pruned, mapBodies, List.forall₂_map_left_iff] at classes
    exact ((List.forall₂_and_left _ _).mpr ⟨placed, classes⟩).imp fun _ _ both =>
      both.2.keepsBodies both.1

/-- Try ranges name handlers that are there if they are encoded. -/
theorem placed_of_encode
    {image : Bytes}
    (encoded : container.encode = .ok image) :
    ∀ classDef ∈ container.classes, ∀ method ∈ classDef.allMethods, ∀ body ∈ method.body,
      ∀ range ∈ body.tries, range.handler < body.handlers.length := by
  intro classDef isClass method isMethod body isBody range member
  obtain ⟨-, checked, -⟩ := encode_eq_ok_iff.mp encoded
  have fits := checked.bodies classDef isClass method isMethod body isBody
  obtain ⟨offset, found, -⟩ := fits.placed range member
  have inside := (List.getElem?_eq_some_iff.mp found).1
  rwa [HandlerList.length_offsets, List.length_map] at inside

/-- What is encoded is read back with all bodies kept if an image can hold them. -/
theorem exists_keepsBodies
    {image : Bytes}
    (encoded : container.encode = .ok image)
    (fits : image.size < 4294967296)
    (version : container.version.isSupported)
    (zeroFree : ∀ string ∈ container.strings, 0 ∉ string.data)
    (headed : ∀ blob ∈ container.hiddenApi, HeadedByLength blob)
    (holdable :
      ∀ classDef ∈ container.classes, ∀ method ∈ classDef.allMethods, ∀ body ∈ method.body,
        body.Holdable body.pruned.handlers) :
    ∃ result renumber, decode image = .ok result ∧ container.KeepsBodies renumber result := by
  have encodedPruned := encode_pruned encoded
  have shaped : container.pruned.Shaped :=
    { version, strings := zeroFree
      bodies := forall_bodies_mapBodies.mpr fun classDef isClass method isMethod body isBody =>
        (holdable classDef isClass method isMethod body isBody).shaped_pruned }
  obtain ⟨reread, decoded, -⟩ := exists_decode_of_encode encodedPruned fits shaped headed
  obtain ⟨-, checked, isImage⟩ := encode_eq_ok_iff.mp encodedPruned
  have permuted := permuted_canonical (numbered_of_image (isImage ▸ fits)) checked
  have kept := permuted.keepsBodies (placed_of_encode encoded)
  exact ⟨_, _, decoded,
    { strings := kept.strings, types := kept.types, protos := kept.protos, fields := kept.fields
      methods := kept.methods, classes := kept.classes }⟩

end Container

/-! ## What is kept can be held -/

/-- Of two lists that are related one by one, each element of the first has one in the second. -/
theorem exists_of_forall₂
    {α β : Type}
    {related : α → β → Prop}
    {old : List α}
    {new : List β}
    (each : List.Forall₂ related old new)
    {x : α}
    (member : x ∈ old) :
    ∃ y ∈ new, related x y := by
  induction each with
  | nil =>
      cases member
  | @cons first second _ _ here _ inductionHypothesis =>
      rcases List.mem_cons.mp member with rfl | later
      · exact ⟨second, List.mem_cons_self, here⟩
      · obtain ⟨y, isNew, there⟩ := inductionHypothesis later
        exact ⟨y, List.mem_cons_of_mem _ isNew, there⟩

/-- A body that is kept by a shaped one can be held with the handlers that its try ranges lead
to. -/
theorem Body.Keeps.holdable
    {old new : Body}
    (keeps : old.Keeps renumber new)
    (shaped : new.Shaped) :
    old.Holdable old.usedHandlers where
  steps := fun debug isDebug op isOp => by
    have isNew : debug.mapRefs renumber ∈ new.debug := by
      rw [keeps.debug]
      exact Option.mem_map_of_mem _ isDebug
    have shapedOp := shaped.steps _ isNew _ (List.mem_map_of_mem isOp)
    cases op <;> exact shapedOp
  fewTries := by
    rw [keeps.tries.length_eq]
    exact shaped.fewTries
  handlers := fun handler used => by
    obtain ⟨range, isRange, found⟩ := List.mem_filterMap.mp used
    obtain ⟨again, -, -, -, other, isOther, isNew⟩ := exists_of_forall₂ keeps.tries isRange
    obtain rfl := Option.some.inj (isOther.symm.trans found)
    have shapedHandler := shaped.handlers _ (List.mem_of_getElem? isNew)
    exact fun empty => shapedHandler (by simp [CatchHandler.mapRefs, empty])

/-- A body that has nothing to keep can be held. -/
theorem Body.holdable_of_nothing
    {body : Body}
    (unguarded : body.tries = [])
    (silent : body.debug = none) :
    body.Holdable body.usedHandlers where
  steps := by simp [silent]
  fewTries := by simp [unguarded]
  handlers := by simp [usedHandlers, unguarded]

namespace Container

variable {container result : Container}

/-- All bodies that are kept by what is read from an image can be held with the handlers that their
try ranges lead to. -/
theorem KeepsBodies.holdable
    {image : Bytes}
    (keeps : container.KeepsBodies renumber result)
    (decoded : decode image = .ok result) :
    ∀ classDef ∈ container.classes, ∀ method ∈ classDef.allMethods, ∀ body ∈ method.body,
      body.Holdable body.usedHandlers := by
  have shaped := (decode_spec decoded).1
  intro classDef isClass method isMethod body isBody
  obtain ⟨again, isAgain, kept⟩ := exists_of_forall₂ keeps.classes isClass
  obtain ⟨kind, listed⟩ := ClassDef.mem_allMethods_iff.mp isMethod
  obtain ⟨middle, related, perm⟩ := kept.methods kind
  obtain ⟨other, isOther, keepsBody⟩ := exists_of_forall₂ related listed
  by_cases nothing : body.tries = [] ∧ body.debug = none
  · exact Body.holdable_of_nothing nothing.1 nothing.2
  · have something : body.tries ≠ [] ∨ body.debug.isSome := by
      rw [Option.isSome_iff_ne_none]
      exact not_and_or.mp nothing
    obtain ⟨new, isNew, keepsGuards⟩ := keepsBody.body body isBody something
    have inside := ClassDef.mem_allMethods_iff.mpr ⟨kind, perm.mem_iff.mp isOther⟩
    exact keepsGuards.holdable (shaped.bodies again isAgain other inside new isNew)

/-- What is encoded is read back with the try ranges, the handlers and the debug information of all
bodies if the format can hold them: no more try ranges than 16 bits can count, no special step with
the opcode of another one, and, behind try ranges, no handler that catches nothing.  Conversely,
they are kept only if this is so, apart from handlers that no try range leads to. -/
theorem keepsBodies_of_encode
    {image : Bytes}
    (encoded : container.encode = .ok image)
    (fits : image.size < 4294967296)
    (version : container.version.isSupported)
    (zeroFree : ∀ string ∈ container.strings, 0 ∉ string.data)
    (headed : ∀ blob ∈ container.hiddenApi, HeadedByLength blob) :
    ((∀ classDef ∈ container.classes, ∀ method ∈ classDef.allMethods, ∀ body ∈ method.body,
          body.Holdable body.pruned.handlers) →
        ∃ result renumber, decode image = .ok result ∧ container.KeepsBodies renumber result) ∧
      ∀ result renumber, decode image = .ok result → container.KeepsBodies renumber result →
        ∀ classDef ∈ container.classes, ∀ method ∈ classDef.allMethods, ∀ body ∈ method.body,
          body.Holdable body.usedHandlers :=
  ⟨exists_keepsBodies encoded fits version zeroFree headed,
    fun _ _ decoded keeps => keeps.holdable decoded⟩

/-- A class with a method whose only unit of code is guarded by a handler. -/
def guardedBy (handler : CatchHandler) : Container :=
  { empty with
    strings :=
      #[{ data := [0x4c, 0x43, 0x3b], utf16Length := 3 }, { data := [0x56], utf16Length := 1 },
        { data := [0x61], utf16Length := 1 }]
    types := #[0, 1]
    protos := #[{ shorty := 1, returnType := 1, parameters := [] }]
    methods := #[{ declaringType := 0, proto := 0, name := 2 }]
    classes :=
      [{ type := 0, access := 1, superclass := none, interfaces := [], sourceFile := none
         annotations := none
         data :=
          some
            { staticFields := [], instanceFields := [], directMethods := []
              virtualMethods :=
                [{ method := 0, access := 1
                   body :=
                    some
                      { registers := 1, ins := 1, outs := 0, code := [0x000e]
                        tries := [{ start := 0, length := 1, handler := 0 }], handlers := [handler]
                        debug :=
                          some { lineStart := 1, parameterNames := [], ops := [.special 0x0e] } } }] }
         staticValues := none }] }

/-- The class with a handler that catches one type, and the rest at the start. -/
def guarded : Container := guardedBy { catches := [(0, 0)], catchAll := some 0 }

/-- The class with a handler that catches nothing. -/
def unguarded : Container := guardedBy { catches := [], catchAll := none }

theorem encode_guarded : guarded.encode = .ok guarded.canonical.image :=
  encode_of_checks (by cbv) (by cbv)

theorem size_guarded : guarded.canonical.image.size < 4294967296 :=
  size_image_lt (by cbv)

theorem encode_unguarded : unguarded.encode = .ok unguarded.canonical.image :=
  encode_of_checks (by cbv) (by cbv)

theorem size_unguarded : unguarded.canonical.image.size < 4294967296 :=
  size_image_lt (by cbv)

/-- The handler of the class is kept. -/
theorem keepsBodies_of_encode_guarded :
    (guarded.encode = .ok guarded.canonical.image ∧
        guarded.canonical.image.size < 4294967296 ∧ guarded.version.isSupported ∧
          (∀ string ∈ guarded.strings, 0 ∉ string.data) ∧
            ∀ blob ∈ guarded.hiddenApi, HeadedByLength blob) ∧
      ∃ result renumber,
        decode guarded.canonical.image = .ok result ∧ guarded.KeepsBodies renumber result := by
  have version : guarded.version.isSupported := by cbv
  have zeroFree : ∀ string ∈ guarded.strings, 0 ∉ string.data := by decide
  have headed : ∀ blob ∈ guarded.hiddenApi, HeadedByLength blob := by
    simp [guarded, guardedBy, empty]
  refine ⟨⟨encode_guarded, size_guarded, version, zeroFree, headed⟩,
    (keepsBodies_of_encode encode_guarded size_guarded version zeroFree headed).1 ?_⟩
  intro classDef isClass method isMethod body isBody
  obtain rfl := List.mem_singleton.mp isClass
  obtain rfl := List.mem_singleton.mp isMethod
  obtain rfl := Option.some.inj isBody
  refine ⟨?_, by decide, ?_⟩
  · simp [DebugOp.Shaped]
  · simp [Body.pruned, CatchHandler.Shaped]

/-- The handler that catches nothing is encoded, and not read back. -/
theorem not_keepsBodies_unguarded :
    (unguarded.encode = .ok unguarded.canonical.image ∧
        unguarded.canonical.image.size < 4294967296 ∧ unguarded.version.isSupported ∧
          (∀ string ∈ unguarded.strings, 0 ∉ string.data) ∧ unguarded.hiddenApi = none) ∧
      ¬ ∃ result renumber,
          decode unguarded.canonical.image = .ok result ∧
            unguarded.KeepsBodies renumber result := by
  refine ⟨⟨encode_unguarded, size_unguarded, by cbv, by decide, rfl⟩, ?_⟩
  rintro ⟨result, renumber, decoded, keeps⟩
  have holdable := keeps.holdable decoded _ (List.mem_singleton_self _) _ (List.mem_singleton_self _)
    _ rfl
  have shaped := holdable.handlers { catches := [], catchAll := none } (by decide) rfl
  exact Bool.false_ne_true shaped

end Container

end DexPatch
