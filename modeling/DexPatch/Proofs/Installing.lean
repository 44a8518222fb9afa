import DexPatch.Patch.Staged
import DexPatch.Proofs.Assembling
import DexPatch.Proofs.Independence

namespace DexPatch

/-!
# Canned bodies installed

A body that is replaced becomes the canned one of its behavior, whatever it
was, and nothing else of the container changes but that pools may grow.
Where it cannot be replaced no class changes at all.
-/

/-! ## Step by step -/

/-- Pushing instructions one by one puts them behind the others. -/
theorem Listing.foldl_push (listing sequence : Listing) :
    sequence.foldl Listing.push listing = listing ++ sequence := by
  induction sequence generalizing listing with
  | nil =>
      exact (List.append_nil listing).symm
  | cons instruction rest inductionHypothesis =>
      rw [List.foldl_cons, inductionHypothesis, Listing.push, List.append_assoc]
      rfl

namespace Container

variable {container : Container} {key : MethodKey} {behavior : Behavior} {form : EmptyListForm}

/-- Interning leaves bodies where they are. -/
theorem Interned.body?_eq
    {grown : Container}
    (interned : container.Interned grown)
    (key : MethodKey) :
    grown.body? key = container.body? key :=
  ((Replaced.refl container).interned interned).body?_of_none rfl

theorem run_internCanned_bind
    {β : Type}
    (next : Listing → ExceptT AssemblyError (StateM Container) β)
    (container : Container) :
    (internCanned behavior form >>= next).run.run container =
      (next (container.canned behavior form).1).run.run (container.canned behavior form).2 := rfl

/-- Replacing a body step by step in a container that is held does what replacing it does. -/
theorem installInto_eq
    (container : Container)
    (key : MethodKey)
    (behavior : Behavior)
    (form : EmptyListForm) :
    container.installInto key behavior form = container.replaceBody key behavior form := by
  have interned : container.Interned (container.canned behavior form).2 := by
    rw [canned_snd]
    exact container.interned_withSource form behavior.asksSource
  rw [installInto, install, replaceBody, run_get_bind, run_ofExcept_bind]
  cases growable : container.growableIns key with
  | error reason =>
      rfl
  | ok ins =>
      -- The second lookup finds the body of the first, since interning leaves all classes alone.
      obtain ⟨old, isOld, -, -⟩ := exists_of_growableIns growable
      rw [← interned.body?_eq key] at isOld
      dsimp only
      rw [run_internCanned_bind, run_get_bind, isOld]
      dsimp only
      rw [Listing.foldl_push, Listing.clear, List.nil_append, Listing.storeInto_eq,
        freshBody]
      cases Listing.assemble (container.canned behavior form).1 _ <;> rfl

end Container

/-! ## The body that is installed -/

/-- The instructions of a behavior, with the source of the empty list for those that ask for it. -/
def Listing.ofBehavior (form : EmptyListForm) (source : UInt32) : Behavior → Listing
  | .constantFalse => [.const4 0 0, .returnValue 0]
  | .constantTrue => [.const4 0 1, .returnValue 0]
  | .emptyList => .ofSource form source

namespace Container

variable {container : Container} {key : MethodKey} {behavior : Behavior} {form : EmptyListForm}

theorem canned_fst (container : Container) (behavior : Behavior) (form : EmptyListForm) :
    (container.canned behavior form).1 =
      .ofBehavior form (container.internSource form).1 behavior := by
  cases behavior with
  | emptyList =>
      rw [canned_emptyList]
      rfl
  | _ => rfl

/-- The instructions of a behavior have a structure. -/
theorem whole_ofBehavior (source : UInt32) :
    ∀ instruction ∈ Listing.ofBehavior form source behavior, instruction.Whole := by
  cases behavior <;> cases form <;> simp [Listing.ofBehavior, Listing.ofSource, Instruction.Whole]

/-- A canned body is read as the instructions of its behavior. -/
theorem ofBody_cannedBody
    {ins : UInt16}
    (room : ins.toNat < 65535)
    (fits : ¬ container.SourceTooWide form behavior) :
    Listing.ofBody (cannedBody form (container.internSource form).1.toUInt16 behavior ins) =
      .ok (.ofBehavior form (container.internSource form).1 behavior) := by
  have fresh := freshBody_canned container behavior form room
  rw [if_neg fits, canned_fst, freshBody] at fresh
  obtain ⟨assembles, isBody⟩ := Listing.assemble_eq_ok_iff.mp fresh
  rw [← isBody]
  exact Listing.ofBody_of_written assembles.fits (whole_ofBehavior _) rfl

/-- The second container is the first with a canned body installed at a key, and with its pools
grown. -/
structure Installed
    (container : Container)
    (key : MethodKey)
    (behavior : Behavior)
    (form : EmptyListForm)
    (after : Container)
    (old new : Body) :
    Prop where
  isOld : container.body? key = some old
  isNew : after.body? key = some new
  registers : new.registers.toNat = old.ins.toNat + 1
  ins : new.ins = old.ins
  outs : new.outs = 0
  tries : new.tries = []
  handlers : new.handlers = []
  debug : new.debug = none
  code : Listing.ofBody new = .ok (.ofBehavior form (container.internSource form).1 behavior)
  others : Replaced (Function.update (fun _ => none) key (some new)) container after

/-- Why no body can be installed at a key, and what is left then: pools have grown only if the
source of the empty list turned out to be too wide. -/
inductive NotInstalled
    (container : Container)
    (key : MethodKey)
    (behavior : Behavior)
    (form : EmptyListForm) :
    AssemblyError → Container → Prop
  | missing
      (noMethod : container.method? key = none) :
      NotInstalled container key behavior form .missingMethod container
  | noBody {method : MemberMethod}
      (isMethod : container.method? key = some method)
      (bodyless : method.body = none) :
      NotInstalled container key behavior form .noBody container
  | fullFrame {old : Body}
      (isOld : container.body? key = some old)
      (full : old.ins = 65535) :
      NotInstalled container key behavior form (.frameOverflow 65535) container
  | tooWide {old : Body}
      (isOld : container.body? key = some old)
      (room : old.ins.toNat < 65535)
      (asks : behavior = .emptyList)
      (wide : 65536 ≤ (container.internSource form).1.toNat) :
      NotInstalled container key behavior form (.indexTooWide (container.internSource form).1)
        (container.internSource form).2

theorem NotInstalled.interned
    {reason : AssemblyError}
    {after : Container}
    (notInstalled : container.NotInstalled key behavior form reason after) :
    container.Interned after := by
  cases notInstalled with
  | tooWide =>
      exact (interns_source form).grown container
  | _ => exact .refl container

/-- A body is installed exactly if there is one whose frame can grow and if the source of the empty
list, where it is asked for, has a number that fits. -/
def Installable
    (container : Container)
    (key : MethodKey)
    (behavior : Behavior)
    (form : EmptyListForm) :
    Prop :=
  ∃ old,
    container.body? key = some old ∧ old.ins.toNat < 65535 ∧
      (behavior = .emptyList → (container.internSource form).1.toNat < 65536)

theorem not_sourceTooWide_iff :
    ¬ container.SourceTooWide form behavior ↔
      (behavior = .emptyList → (container.internSource form).1.toNat < 65536) := by
  cases behavior <;> simp [SourceTooWide, Behavior.asksSource]

/-- A frame cannot grow if there is none, or if it is full. -/
theorem notInstalled_of_growableIns
    {reason : AssemblyError}
    (refused : container.growableIns key = .error reason) :
    container.NotInstalled key behavior form reason container := by
  rw [growableIns] at refused
  split at refused
  · next noMethod =>
    cases refused
    exact .missing noMethod
  · next method isMethod =>
    split at refused
    · next bodyless =>
      cases refused
      exact .noBody isMethod bodyless
    · next old isOld =>
      split at refused
      · cases refused
      · next noRoom =>
        cases refused
        have full : old.ins = 65535 := by
          have := old.ins.toNat_lt
          apply UInt16.toNat_inj.mp
          change old.ins.toNat = 65535
          omega
        rw [full]
        exact .fullFrame (by rw [body?, isMethod]; exact isOld) full

theorem growableIns_of_body?
    {old : Body}
    (isOld : container.body? key = some old)
    (room : old.ins.toNat < 65535) :
    container.growableIns key = .ok old.ins := by
  obtain ⟨method, isMethod, isBody⟩ := Option.bind_eq_some_iff.mp isOld
  rw [growableIns, isMethod]
  dsimp only
  rw [isBody]
  exact if_pos room

theorem replaceBody_of_installable
    (installable : container.Installable key behavior form) :
    ∃ old new after,
      container.replaceBody key behavior form = (.ok (), after) ∧
        container.Installed key behavior form after old new := by
  obtain ⟨old, isOld, room, narrow⟩ := installable
  have fits := not_sourceTooWide_iff.mpr narrow
  have growable := growableIns_of_body? isOld room
  have replaced := replaceBody_of_growable growable behavior form
  rw [if_neg fits] at replaced
  have interned := container.interned_withSource form behavior.asksSource
  have others :=
    ((Replaced.refl container).interned interned).setBody
      ((interned.body?_eq key).trans isOld)
      (show (cannedBody form (container.internSource form).1.toUInt16 behavior old.ins).ins =
        old.ins from rfl)
  refine ⟨old, cannedBody form (container.internSource form).1.toUInt16 behavior old.ins, _,
    replaced, ?_⟩
  exact
    { isOld
      isNew := others.body?_of_new isOld (Function.update_self ..)
      registers := by
        change (old.ins + 1).toNat = _
        rw [UInt16.toNat_add, UInt16.toNat_one]
        omega
      ins := rfl
      outs := rfl
      tries := rfl
      handlers := rfl
      debug := rfl
      code := ofBody_cannedBody room fits
      others }

theorem installable_of_replaceBody
    (succeeds : (container.replaceBody key behavior form).1 = .ok ()) :
    container.Installable key behavior form := by
  cases growable : container.growableIns key with
  | error reason =>
      rw [replaceBody, growable] at succeeds
      cases succeeds
  | ok ins =>
      obtain ⟨old, isOld, room, -⟩ := exists_of_growableIns growable
      rw [replaceBody_of_growable growable] at succeeds
      split at succeeds
      · cases succeeds
      · next fits =>
          exact ⟨old, isOld, room, not_sourceTooWide_iff.mp fits⟩

theorem notInstalled_of_replaceBody
    {reason : AssemblyError}
    {after : Container}
    (failed : container.replaceBody key behavior form = (.error reason, after)) :
    container.NotInstalled key behavior form reason after := by
  cases growable : container.growableIns key with
  | error other =>
      rw [replaceBody, growable] at failed
      cases failed
      exact notInstalled_of_growableIns growable
  | ok ins =>
      obtain ⟨old, isOld, room, -⟩ := exists_of_growableIns growable
      rw [replaceBody_of_growable growable] at failed
      split at failed
      · next tooWide =>
          obtain ⟨asks, wide⟩ := tooWide
          have isEmptyList : behavior = .emptyList := by
            cases behavior with
            | emptyList => rfl
            | _ => cases asks
          rw [asks, withSource, if_pos rfl] at failed
          cases failed
          exact .tooWide isOld room isEmptyList wide
      · cases failed

/-- The code of the body that is replaced plays no part: where it is another one, replacing ends
alike, and leaves the same container if it succeeds. -/
theorem replaceBody_setBody
    {old other : Body}
    (isOld : container.body? key = some old)
    (sameIns : other.ins = old.ins)
    (behavior : Behavior)
    (form : EmptyListForm) :
    ((container.setBody key (some other)).replaceBody key behavior form).1 =
        (container.replaceBody key behavior form).1 ∧
      ((container.replaceBody key behavior form).1 = .ok () →
        (container.setBody key (some other)).replaceBody key behavior form =
          container.replaceBody key behavior form) := by
  have replaced := (Replaced.refl container).setBody isOld sameIns
  have isAltered :
      container.setBody key (some other) =
        container.altered form false (Function.update (fun _ => none) key (some other)) := by
    rw [← setBody_altered, altered_none]
  have growsAlike := replaced.growableIns_eq key
  cases growable : container.growableIns key with
  | error reason =>
      rw [replaceBody, growsAlike, growable, replaceBody, growable]
      exact ⟨rfl, by simp⟩
  | ok ins =>
      have once (body : Body) :
          (container.withSource form behavior.asksSource).setBody key (some body) =
            container.altered form behavior.asksSource
              (Function.update (fun _ => none) key (some body)) := by
        rw [← setBody_altered, altered, withBodies_none]
      rw [replaceBody_of_growable growable, replaceBody_of_growable (growsAlike.trans growable),
        isAltered, withSource_altered, setBody_altered, Function.update_idem, Bool.false_or, once]
      simp only [sourceTooWide_altered, internSource_altered]
      split
      · exact ⟨rfl, by simp⟩
      · exact ⟨rfl, fun _ => rfl⟩

/-- Replacing a body installs exactly the canned one and nothing else, and the code of the old body
plays no part.  Where there is no body, or none whose frame can grow, or where the source of the
empty list has a number that is too wide, all classes stay as they are. -/
theorem installInto_spec
    (container : Container)
    (key : MethodKey)
    (behavior : Behavior)
    (form : EmptyListForm) :
    container.installInto key behavior form = container.replaceBody key behavior form ∧
      ((container.installInto key behavior form).1 = .ok () ↔
        container.Installable key behavior form) ∧
      (∀ after, container.installInto key behavior form = (.ok (), after) →
        ∃ old new, container.Installed key behavior form after old new) ∧
      (∀ reason after, container.installInto key behavior form = (.error reason, after) →
        container.NotInstalled key behavior form reason after ∧ container.Interned after) ∧
      ∀ old other, container.body? key = some old → other.ins = old.ins →
        ((container.setBody key (some other)).installInto key behavior form).1 =
            (container.installInto key behavior form).1 ∧
          ((container.installInto key behavior form).1 = .ok () →
            (container.setBody key (some other)).installInto key behavior form =
              container.installInto key behavior form) := by
  simp only [installInto_eq, true_and]
  refine ⟨⟨installable_of_replaceBody, fun installable => ?_⟩, fun after succeeds => ?_,
    fun reason after failed => ?_, fun old other isOld sameIns => ?_⟩
  · obtain ⟨old, new, after, succeeds, -⟩ := replaceBody_of_installable installable
    rw [succeeds]
  · have installable := installable_of_replaceBody (congrArg Prod.fst succeeds)
    obtain ⟨old, new, result, replaced, installed⟩ := replaceBody_of_installable installable
    obtain rfl : after = result := congrArg Prod.snd (succeeds.symm.trans replaced)
    exact ⟨old, new, installed⟩
  · have notInstalled := notInstalled_of_replaceBody failed
    exact ⟨notInstalled, notInstalled.interned⟩
  · exact replaceBody_setBody isOld sameIns behavior form

end Container

end DexPatch
