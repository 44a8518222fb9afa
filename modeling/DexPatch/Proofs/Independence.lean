import DexPatch.Proofs.Patched

namespace DexPatch

/-!
# Requests one by one

What requests do can be told from the container before the first of them: each
ends as it would alone, the source of the empty list is interned if any of
them asks for it, and each body is that of the last request which replaces it.
-/

namespace Container

/-! ## One request -/

variable {container : Container} {form : EmptyListForm} {request : Request}

/-- How a request ends where it is the only one. -/
def outcomeOf (container : Container) (form : EmptyListForm) (request : Request) : Outcome :=
  (container.applyRequest form request).1

theorem applyRequest_of_notFound (located : request.target? container = none) :
    container.applyRequest form request =
      ({ methodName := request.methodName, status := .notFound }, container) := by
  rw [applyRequest, located]

variable {record : MethodRecord} (located : request.target? container = some record)

include located

theorem applyRequest_of_error
    {reason : AssemblyError}
    (refused : container.growableIns record.key = .error reason) :
    container.applyRequest form request =
      ({ methodName := request.methodName, status := .assemblyFailed reason }, container) := by
  rw [applyRequest, located]
  dsimp only
  rw [replaceBody, refused]

theorem applyRequest_of_tooWide
    {ins : UInt16}
    (growable : container.growableIns record.key = .ok ins)
    (tooWide : container.SourceTooWide form request.behavior) :
    container.applyRequest form request =
      ({ methodName := request.methodName
         status := .assemblyFailed (.indexTooWide (container.internSource form).1) },
        container.withSource form request.behavior.asksSource) := by
  rw [applyRequest, located]
  dsimp only
  rw [replaceBody_of_growable growable, if_pos tooWide]

theorem applyRequest_of_fits
    {ins : UInt16}
    (growable : container.growableIns record.key = .ok ins)
    (fits : ¬ container.SourceTooWide form request.behavior) :
    container.applyRequest form request =
      ({ methodName := request.methodName, status := .patched record.signature },
        (container.withSource form request.behavior.asksSource).setBody record.key
          (some
            (cannedBody form (container.internSource form).1.toUInt16 request.behavior ins))) := by
  rw [applyRequest, located]
  dsimp only
  rw [replaceBody_of_growable growable, if_neg fits]

omit located

/-- A request patches the method that it finds at a key. -/
theorem applyRequest_of_located
    {key : MethodKey}
    {signature : String}
    {ins : UInt16}
    (located :
      (request.target? container).map (fun record => (record.key, record.signature)) =
        some (key, signature))
    (growable : container.growableIns key = .ok ins)
    (fits : ¬ container.SourceTooWide form request.behavior) :
    container.applyRequest form request =
      ({ methodName := request.methodName, status := .patched signature },
        (container.withSource form request.behavior.asksSource).setBody key
          (some
            (cannedBody form (container.internSource form).1.toUInt16 request.behavior ins))) := by
  obtain ⟨record, isTarget, isRecord⟩ := Option.map_eq_some_iff.mp located
  obtain ⟨rfl, rfl⟩ := Prod.mk.inj isRecord
  exact applyRequest_of_fits isTarget growable fits

/-- Does the request ask for the source of the empty list?  It does if it finds a method whose frame
can grow. -/
def asksSource (container : Container) (request : Request) : Bool :=
  request.behavior.asksSource &&
    (request.target? container).any fun record =>
      (container.growableIns record.key).toOption.isSome

theorem asksSource_of_notFound (located : request.target? container = none) :
    container.asksSource request = false := by
  rw [asksSource, located, Option.any_none, Bool.and_false]

include located

theorem asksSource_of_error
    {reason : AssemblyError}
    (refused : container.growableIns record.key = .error reason) :
    container.asksSource request = false := by
  rw [asksSource, located, Option.any_some, refused]
  exact Bool.and_false _

theorem asksSource_of_growable
    {ins : UInt16}
    (growable : container.growableIns record.key = .ok ins) :
    container.asksSource request = request.behavior.asksSource := by
  rw [asksSource, located, Option.any_some, growable]
  exact Bool.and_true _

omit located

/-! ## Altered containers -/

/-- The container with the source of the empty list, if it is asked for, and the bodies at some keys
replaced. -/
def altered
    (container : Container)
    (form : EmptyListForm)
    (asked : Bool)
    (bodies : MethodKey → Option Body) :
    Container :=
  (container.withSource form asked).withBodies bodies

variable {asked : Bool} {bodies : MethodKey → Option Body}

/-- The source has the number that it would have had at first. -/
theorem internSource_altered :
    (container.altered form asked bodies).internSource form =
      ((container.internSource form).1, container.altered form true bodies) := by
  have interns := interns_source form
  cases asked with
  | false =>
      exact interns.withBodies container bodies
  | true =>
      have again :
          (container.withSource form true).internSource form =
            ((container.internSource form).1, container.withSource form true) :=
        interns.again (.refl _)
      rw [altered, interns.withBodies, again]

theorem sourceTooWide_altered {behavior : Behavior} :
    (container.altered form asked bodies).SourceTooWide form behavior ↔
      container.SourceTooWide form behavior := by
  rw [SourceTooWide, SourceTooWide, internSource_altered]

/-- To ask for the source once more changes nothing but whether it is there. -/
theorem withSource_altered (asksToo : Bool) :
    (container.altered form asked bodies).withSource form asksToo =
      container.altered form (asked || asksToo) bodies := by
  cases asksToo with
  | false =>
      rw [Bool.or_false]
      rfl
  | true =>
      rw [Bool.or_true, withSource, if_pos rfl, internSource_altered]

/-- Where the source has been asked for it is found. -/
theorem findSource?_altered :
    (container.altered form true bodies).findSource? form =
      some (container.internSource form).1 := by
  have found := (interns_source form).found (container.altered form true bodies)
  rwa [internSource_altered] at found

/-- The source is there already exactly if to ask for it changes nothing. -/
theorem withSource_eq_self_iff (asked : Bool) :
    container.withSource form asked = container ↔
      asked = false ∨ (container.findSource? form).isSome = true := by
  cases asked with
  | false =>
      exact ⟨fun _ => .inl rfl, fun _ => rfl⟩
  | true =>
      rw [← (interns_source form).same_iff]
      simp [withSource]

/-- One more body is replaced. -/
theorem setBody_altered (key : MethodKey) (body : Body) :
    (container.altered form asked bodies).setBody key (some body) =
      container.altered form asked (Function.update bodies key (some body)) := by
  have classes :
      ((container.altered form asked bodies).setBody key (some body)).classes =
        ((container.withSource form asked).withBodies
          (Function.update bodies key (some body))).classes :=
    classes_setBody rfl key body
  rw [setBody, modifyMethod] at classes ⊢
  dsimp only at classes
  rw [classes]
  rfl

theorem altered_none : container.altered form false (fun _ => none) = container :=
  container.withBodies_none

/-- A container is altered from what it was. -/
theorem replaced_altered
    (known :
      ∀ key, ∀ body ∈ bodies key, ∃ old, container.body? key = some old ∧ body.ins = old.ins) :
    Replaced bodies container (container.altered form asked bodies) where
  toExtends :=
    (container.interned_withSource form asked).toExtends.trans
      { Extends.refl (container.withSource form asked) with }
  classes := by
    rw [altered, withBodies, withBodies, (container.interned_withSource form asked).classes]
  hiddenApi := (container.interned_withSource form asked).hiddenApi
  bodied := known

/-- A frame can grow if it could before. -/
theorem Replaced.growableIns_eq
    {after : Container}
    (replaced : Replaced bodies container after)
    (key : MethodKey) :
    after.growableIns key = container.growableIns key := by
  rw [growableIns, growableIns, replaced.method?_eq]
  cases isMethod : container.method? key with
  | none =>
      rfl
  | some method =>
      cases isNew : bodies key with
      | none =>
          rfl
      | some new =>
          obtain ⟨old, isOld, sameIns⟩ := replaced.bodied key new isNew
          rw [body?, isMethod, Option.bind_some] at isOld
          simp [MemberMethod.withBody, isOld, sameIns]

/-! ## The container after some requests -/

/-- The bodies that are replaced by requests: each by that of the last request which replaces it. -/
def newBodies
    (container : Container)
    (form : EmptyListForm)
    (requests : List Request)
    (key : MethodKey) :
    Option Body :=
  (container.lastBehavior? requests (requests.map (container.outcomeOf form)) key).bind
    fun behavior =>
      (container.body? key).map fun old =>
        cannedBody form (container.internSource form).1.toUInt16 behavior old.ins

/-- The container that some requests leave. -/
def patchedBy (container : Container) (form : EmptyListForm) (requests : List Request) :
    Container :=
  container.altered form (requests.any container.asksSource) (container.newBodies form requests)

theorem zip_map_self {α β : Type} (f : α → β) (list : List α) :
    list.zip (list.map f) = list.map fun x => (x, f x) := by
  rw [List.zip_map_right, List.zip_eq_zipWith, List.zipWith_self, List.map_map]
  rfl

/-- The last behavior is the first one from behind. -/
theorem lastBehavior?_map
    (outcome : Request → Outcome)
    (requests : List Request)
    (key : MethodKey) :
    container.lastBehavior? requests (requests.map outcome) key =
      requests.reverse.findSome? fun request =>
        container.behaviorAt? key request (outcome request) := by
  rw [lastBehavior?, zip_map_self, ← List.map_reverse, List.findSome?_map]
  rfl

/-- A further request gives its behavior to the method that it patches. -/
theorem lastBehavior?_concat
    (outcome : Request → Outcome)
    (requests : List Request)
    (key : MethodKey) :
    container.lastBehavior? (requests ++ [request]) ((requests ++ [request]).map outcome) key =
      (container.behaviorAt? key request (outcome request)).or
        (container.lastBehavior? requests (requests.map outcome) key) := by
  rw [lastBehavior?_map, lastBehavior?_map, List.reverse_append, List.findSome?_append]
  simp

/-- A request that is not patched replaces no body. -/
theorem newBodies_of_not_patched
    (failed : (container.outcomeOf form request).isPatched = false)
    (earlier later : List Request) :
    container.newBodies form (earlier ++ request :: later) =
      container.newBodies form (earlier ++ later) := by
  funext key
  rw [newBodies, newBodies, lastBehavior?_map, lastBehavior?_map]
  simp [behaviorAt?, failed, List.findSome?_append]

/-- A further request that is patched replaces the body that it finds. -/
theorem newBodies_concat_of_patched
    (located : request.target? container = some record)
    (patched : (container.outcomeOf form request).isPatched = true)
    {old : Body}
    (isOld : container.body? record.key = some old)
    (requests : List Request) :
    container.newBodies form (requests ++ [request]) =
      Function.update (container.newBodies form requests) record.key
        (some
          (cannedBody form (container.internSource form).1.toUInt16 request.behavior old.ins)) := by
  funext key
  rw [newBodies, lastBehavior?_concat, behaviorAt?_of_patched located patched]
  by_cases same : record.key = key
  · subst same
    rw [if_pos rfl, Function.update_self, isOld]
    rfl
  · rw [if_neg same, Function.update_of_ne (Ne.symm same), Option.none_or]
    rfl

/-- A container is patched from what it was. -/
theorem replaced_patchedBy
    (container : Container)
    (form : EmptyListForm)
    (requests : List Request) :
    Replaced (container.newBodies form requests) container (container.patchedBy form requests) := by
  refine replaced_altered fun key body isNew => ?_
  obtain ⟨behavior, -, isBody⟩ := Option.bind_eq_some_iff.mp isNew
  obtain ⟨old, isOld, rfl⟩ := Option.map_eq_some_iff.mp isBody
  exact ⟨old, isOld, rfl⟩

/-- A request asks for the source after others if it would alone. -/
theorem asksSource_patchedBy
    (closed : container.Closed)
    (requests : List Request)
    (request : Request) :
    (container.patchedBy form requests).asksSource request = container.asksSource request := by
  have replaced := container.replaced_patchedBy form requests
  rw [asksSource, asksSource, replaced.target?_eq closed request]
  cases request.target? container with
  | none =>
      rfl
  | some record =>
      rw [Option.map_some, Option.any_some, Option.any_some, replaced.growableIns_eq]

/-- A request ends after others as it would alone, and leaves what it and they would leave. -/
theorem applyRequest_patchedBy
    (closed : container.Closed)
    (requests : List Request)
    (request : Request) :
    (container.patchedBy form requests).applyRequest form request =
      (container.outcomeOf form request, container.patchedBy form (requests ++ [request])) := by
  have replaced := container.replaced_patchedBy form requests
  have locatedThen := replaced.target?_eq closed request
  have asksThen : (requests ++ [request]).any container.asksSource =
      (requests.any container.asksSource || container.asksSource request) := by
    simp
  cases located : request.target? container with
  | none =>
      have alone : container.applyRequest form request = _ := applyRequest_of_notFound located
      rw [located] at locatedThen
      rw [applyRequest_of_notFound locatedThen, outcomeOf, alone, patchedBy, patchedBy, asksThen,
        asksSource_of_notFound located, Bool.or_false,
        newBodies_of_not_patched (by rw [outcomeOf, alone]; rfl), List.append_nil]
  | some record =>
      rw [located] at locatedThen
      have growableThen := replaced.growableIns_eq record.key
      cases growable : container.growableIns record.key with
      | error reason =>
          have alone : container.applyRequest form request = _ :=
            applyRequest_of_error located growable
          rw [applyRequest_of_error locatedThen (growableThen.trans growable), outcomeOf, alone,
            patchedBy, patchedBy, asksThen, asksSource_of_error located growable, Bool.or_false,
            newBodies_of_not_patched (by rw [outcomeOf, alone]; rfl), List.append_nil]
      | ok ins =>
          have asks := asksSource_of_growable located growable
          by_cases tooWide : container.SourceTooWide form request.behavior
          · have alone := applyRequest_of_tooWide located growable tooWide
            rw [applyRequest_of_tooWide locatedThen (growableThen.trans growable)
                (sourceTooWide_altered.mpr tooWide),
              outcomeOf, alone, patchedBy, patchedBy, asksThen, asks,
              newBodies_of_not_patched (by rw [outcomeOf, alone]; rfl), List.append_nil,
              withSource_altered, internSource_altered]
          · have alone := applyRequest_of_fits located growable tooWide
            obtain ⟨old, isOld, -, rfl⟩ := exists_of_growableIns growable
            rw [applyRequest_of_fits locatedThen (growableThen.trans growable)
                (sourceTooWide_altered.not.mpr tooWide),
              outcomeOf, alone, patchedBy, patchedBy, asksThen, asks,
              newBodies_concat_of_patched located (by rw [outcomeOf, alone]; rfl) isOld requests,
              withSource_altered, internSource_altered, setBody_altered]
            rfl

/-- Requests end after others as each would alone, and leave what all of them would leave. -/
theorem applyRequests_patchedBy
    (closed : container.Closed)
    (done requests : List Request) :
    (container.patchedBy form done).applyRequests form requests =
      (requests.map (container.outcomeOf form), container.patchedBy form (done ++ requests)) := by
  -- Each step leaves what the requests that are done leave with one more of them.
  induction requests generalizing done with
  | nil =>
      rw [applyRequests, List.map_nil, List.append_nil]
  | cons request rest inductionHypothesis =>
      rw [applyRequests, applyRequest_patchedBy closed]
      dsimp only
      rw [inductionHypothesis, List.append_assoc, List.singleton_append, List.map_cons]

theorem patchedBy_nil (container : Container) (form : EmptyListForm) :
    container.patchedBy form [] = container :=
  altered_none

/-- Requests end as each would alone. -/
theorem applyRequests_eq
    (closed : container.Closed)
    (requests : List Request) :
    container.applyRequests form requests =
      (requests.map (container.outcomeOf form), container.patchedBy form requests) := by
  have applied : (container.patchedBy form []).applyRequests form requests = _ :=
    applyRequests_patchedBy closed [] requests
  rwa [patchedBy_nil, List.nil_append] at applied

/-! ## What a patched request says -/

/-- A request that is patched has found a method whose frame can grow, and the number of the source
was not too wide. -/
theorem exists_of_isPatched
    (patched : (container.outcomeOf form request).isPatched = true) :
    ∃ record ins,
      request.target? container = some record ∧ container.growableIns record.key = .ok ins ∧
        ¬ container.SourceTooWide form request.behavior := by
  rw [outcomeOf] at patched
  cases located : request.target? container with
  | none =>
      rw [applyRequest_of_notFound located] at patched
      cases patched
  | some record =>
      cases growable : container.growableIns record.key with
      | error reason =>
          rw [applyRequest_of_error located growable] at patched
          cases patched
      | ok ins =>
          refine ⟨record, ins, rfl, growable, fun tooWide => ?_⟩
          rw [applyRequest_of_tooWide located growable tooWide] at patched
          cases patched

/-- A behavior is given by a request that is patched and finds the method. -/
theorem of_behaviorAt?_eq_some
    {key : MethodKey}
    {outcome : Outcome}
    {behavior : Behavior}
    (given : container.behaviorAt? key request outcome = some behavior) :
    outcome.isPatched = true ∧ request.behavior = behavior ∧
      ∃ record, request.target? container = some record ∧ record.key = key := by
  rw [behaviorAt?] at given
  split at given
  · next holds =>
    obtain ⟨isPatched, located⟩ := Bool.and_eq_true_iff.mp holds
    obtain ⟨record, isTarget, isKey⟩ := (Option.any_eq_true _ _).mp located
    exact ⟨isPatched, Option.some.inj given, record, isTarget, eq_of_beq isKey⟩
  · cases given

/-- A method that is given a behavior has a body, and the source of the empty list is there with a
number that fits the operand if the behavior asks for it. -/
theorem exists_of_lastBehavior?
    {requests : List Request}
    {key : MethodKey}
    {behavior : Behavior}
    (last :
      container.lastBehavior? requests (requests.map (container.outcomeOf form)) key =
        some behavior) :
    (∃ old, container.body? key = some old) ∧
      (behavior.asksSource = true →
        (container.patchedBy form requests).findSource? form =
          some (container.internSource form).1.toUInt16.toUInt32) := by
  rw [lastBehavior?_map] at last
  obtain ⟨request, member, given⟩ := List.exists_of_findSome?_eq_some last
  obtain ⟨isPatched, rfl, record, located, rfl⟩ := of_behaviorAt?_eq_some given
  obtain ⟨sameRecord, ins, locatedToo, growable, fits⟩ := exists_of_isPatched isPatched
  obtain rfl := Option.some.inj (located.symm.trans locatedToo)
  obtain ⟨old, isOld, -⟩ := exists_of_growableIns growable
  refine ⟨⟨old, isOld⟩, fun asks => ?_⟩
  have narrow : (container.internSource form).1.toNat < 65536 :=
    Nat.lt_of_not_le fun wide => fits ⟨asks, wide⟩
  have anyAsks : requests.any container.asksSource = true := by
    exact List.any_eq_true.mpr
      ⟨request, List.mem_reverse.mp member, (asksSource_of_growable located growable).trans asks⟩
  rw [patchedBy, anyAsks, findSource?_altered, toUInt32_toUInt16 narrow]

/-! ## The order of requests -/

/-- Do the requests find different methods, if any? -/
def Apart (container : Container) (first second : Request) : Prop :=
  ∀ found ∈ first.target? container, ∀ other ∈ second.target? container, found.key ≠ other.key

/-- Where only one element can give a result, their order does not matter. -/
theorem findSome?_eq_of_perm
    {α β : Type}
    {f : α → Option β}
    {list other : List α}
    (perm : list.Perm other)
    (apart : list.Pairwise fun x y => f x = none ∨ f y = none) :
    list.findSome? f = other.findSome? f := by
  induction perm with
  | nil =>
      rfl
  | cons x _ inductionHypothesis =>
      rw [List.findSome?_cons, List.findSome?_cons, inductionHypothesis apart.of_cons]
  | swap x y rest =>
      rcases (List.pairwise_cons.mp apart).1 x List.mem_cons_self with none | none <;>
        simp [List.findSome?_cons, none]
  | trans first _ firstHypothesis secondHypothesis =>
      exact (firstHypothesis apart).trans
        (secondHypothesis (apart.perm first fun either => either.symm))

/-- Requests for different methods give a method at most one behavior. -/
theorem Apart.behaviorAt?_eq_none
    {first second : Request}
    (apart : container.Apart first second)
    (key : MethodKey)
    (outcome : Request → Outcome) :
    container.behaviorAt? key first (outcome first) = none ∨
      container.behaviorAt? key second (outcome second) = none := by
  cases isFirst : container.behaviorAt? key first (outcome first) with
  | none =>
      exact .inl rfl
  | some behavior =>
      cases isSecond : container.behaviorAt? key second (outcome second) with
      | none =>
          exact .inr rfl
      | some otherBehavior =>
          obtain ⟨-, -, found, located, isKey⟩ := of_behaviorAt?_eq_some isFirst
          obtain ⟨-, -, other, locatedToo, isKeyToo⟩ := of_behaviorAt?_eq_some isSecond
          exact absurd (isKey.trans isKeyToo.symm) (apart found located other locatedToo)

/-- Requests for different methods leave the same whatever their order is. -/
theorem patchedBy_eq_of_perm
    {requests permuted : List Request}
    (perm : permuted.Perm requests)
    (apart : requests.Pairwise container.Apart) :
    container.patchedBy form permuted = container.patchedBy form requests := by
  have sameBodies : container.newBodies form permuted = container.newBodies form requests := by
    funext key
    rw [newBodies, newBodies, lastBehavior?_map, lastBehavior?_map]
    have reversed : permuted.reverse.Perm requests.reverse :=
      (List.reverse_perm _).trans (perm.trans (List.reverse_perm _).symm)
    have apartThen :
        permuted.reverse.Pairwise fun first second =>
          container.behaviorAt? key first (container.outcomeOf form first) = none ∨
            container.behaviorAt? key second (container.outcomeOf form second) = none :=
      (apart.imp fun apart => apart.behaviorAt?_eq_none key (container.outcomeOf form)).perm
        (perm.symm.trans (List.reverse_perm _).symm) fun either => either.symm
    rw [findSome?_eq_of_perm reversed apartThen]
  rw [patchedBy, patchedBy, perm.any_eq, sameBodies]

/-- To apply requests twice leaves what it leaves to apply them once. -/
theorem patchedBy_append_self (requests : List Request) :
    container.patchedBy form (requests ++ requests) = container.patchedBy form requests := by
  have sameBodies :
      container.newBodies form (requests ++ requests) = container.newBodies form requests := by
    funext key
    rw [newBodies, newBodies, lastBehavior?_map, lastBehavior?_map, List.reverse_append,
      List.findSome?_append, Option.or_self]
  rw [patchedBy, patchedBy, List.any_append, Bool.or_self, sameBodies]

/-- Requests do not interfere: each ends as it would alone, and a method has the body of the last
request that finds it and is patched, or its own if there is none.  Where no two requests find one
method, their order does not matter, and to apply them again changes nothing. -/
theorem applyRequests_independent
    (closed : container.Closed)
    (form : EmptyListForm)
    (requests : List Request) :
    (container.applyRequests form requests).1 =
        requests.map (fun request => (container.applyRequest form request).1) ∧
      (∀ key,
        container.lastBehavior? requests (container.applyRequests form requests).1 key = none →
          (container.applyRequests form requests).2.body? key = container.body? key) ∧
        (∀ key behavior,
          container.lastBehavior? requests (container.applyRequests form requests).1 key =
              some behavior →
            ∃ old source,
              container.body? key = some old ∧
                (container.applyRequests form requests).2.body? key =
                    some (cannedBody form source behavior old.ins) ∧
                  (behavior.asksSource = true →
                    (container.applyRequests form requests).2.findSource? form =
                      some source.toUInt32)) ∧
          (requests.Pairwise container.Apart →
            ∀ permuted : List Request, permuted.Perm requests →
              (container.applyRequests form permuted).2 =
                  (container.applyRequests form requests).2 ∧
                (permuted.zip (container.applyRequests form permuted).1).Perm
                  (requests.zip (container.applyRequests form requests).1)) ∧
            (container.applyRequests form requests).2.applyRequests form requests =
              container.applyRequests form requests := by
  have replaced := container.replaced_patchedBy form requests
  simp only [applyRequests_eq closed]
  refine ⟨rfl, fun key untouched => ?_, fun key behavior last => ?_,
    fun apart permuted perm => ⟨patchedBy_eq_of_perm perm apart, ?_⟩, ?_⟩
  · refine replaced.body?_of_none ?_
    rw [newBodies, untouched, Option.bind_none]
  · obtain ⟨⟨old, isOld⟩, there⟩ := exists_of_lastBehavior? last
    refine ⟨old, (container.internSource form).1.toUInt16, isOld, ?_, there⟩
    refine replaced.body?_of_new isOld ?_
    rw [newBodies, last, Option.bind_some, isOld, Option.map_some]
  · rw [zip_map_self, zip_map_self]
    exact perm.map _
  · rw [applyRequests_patchedBy closed, patchedBy_append_self]

/-! ## Two methods of one class -/

/-- One class with a method that returns a list and one that returns a truth value. -/
def paired : Container :=
  { empty with
    strings :=
      #[{ data := [0x4c], utf16Length := 1 }, { data := [0x4c, 0x43, 0x3b], utf16Length := 3 },
        { data :=
            [0x4c, 0x6a, 0x61, 0x76, 0x61, 0x2f, 0x75, 0x74, 0x69, 0x6c, 0x2f, 0x4c, 0x69, 0x73,
              0x74, 0x3b]
          utf16Length := 16 },
        { data := [0x5a], utf16Length := 1 }, { data := [0x61], utf16Length := 1 },
        { data := [0x62], utf16Length := 1 }]
    types := #[1, 2, 3]
    protos :=
      #[{ shorty := 0, returnType := 1, parameters := [] },
        { shorty := 3, returnType := 2, parameters := [] }]
    methods :=
      #[{ declaringType := 0, proto := 0, name := 4 },
        { declaringType := 0, proto := 1, name := 5 }]
    classes :=
      [{ type := 0, access := 1, superclass := none, interfaces := [], sourceFile := none
         annotations := none
         data :=
          some
            { staticFields := [], instanceFields := [], directMethods := []
              virtualMethods :=
                [{ method := 0, access := 1, body := some (.ofCode 2 [0x0012, 0x0011]) },
                  { method := 1, access := 1, body := some (.ofCode 2 [0x0012, 0x000f]) }] }
         staticValues := none }] }

theorem readable_paired : paired.Readable := by
  decide +kernel

/-- The requests find different methods of the pair. -/
theorem apart_paired :
    paired.Apart (.unqualified "a" .emptyList) (.unqualified "b" .constantFalse) := by
  have first :
      ((Request.unqualified "a" .emptyList).target? paired).map (·.key) =
        some { classIndex := 0, kind := .virtual, position := 0 } := by
    decide +kernel
  have second :
      ((Request.unqualified "b" .constantFalse).target? paired).map (·.key) =
        some { classIndex := 0, kind := .virtual, position := 1 } := by
    decide +kernel
  intro found isFound other isOther
  rw [Option.mem_def.mp isFound] at first
  rw [Option.mem_def.mp isOther] at second
  have isFirst : found.key = { classIndex := 0, kind := .virtual, position := 0 } :=
    Option.some.inj first
  have isSecond : other.key = { classIndex := 0, kind := .virtual, position := 1 } :=
    Option.some.inj second
  rw [isFirst, isSecond]
  decide

/-- The two methods of the pair can be patched in either order. -/
theorem applyRequests_independent_paired :
    (paired.Closed ∧
        [Request.unqualified "a" .emptyList, .unqualified "b" .constantFalse].Pairwise
            paired.Apart) ∧
      (paired.applyRequests .field
            [.unqualified "b" .constantFalse, .unqualified "a" .emptyList]).2 =
          (paired.applyRequests .field
            [.unqualified "a" .emptyList, .unqualified "b" .constantFalse]).2 := by
  have closed := readable_paired.toInRange.closed
  have apart :
      [Request.unqualified "a" .emptyList, .unqualified "b" .constantFalse].Pairwise
        paired.Apart :=
    List.pairwise_pair.mpr apart_paired
  have independent :=
    applyRequests_independent closed .field
      [.unqualified "a" .emptyList, .unqualified "b" .constantFalse]
  exact ⟨⟨closed, apart⟩, (independent.2.2.2.1 apart _ (List.Perm.swap _ _ _)).1⟩

/-! ## A number of no method -/

/-- The pair with one more method in its class, whose number is past the end of the pool. -/
def stray : Container :=
  { paired with
    classes :=
      [{ type := 0, access := 1, superclass := none, interfaces := [], sourceFile := none
         annotations := none
         data :=
          some
            { staticFields := [], instanceFields := [], directMethods := []
              virtualMethods :=
                [{ method := 0, access := 1, body := some (.ofCode 2 [0x0012, 0x0011]) },
                  { method := 1, access := 1, body := some (.ofCode 2 [0x0012, 0x000f]) },
                  { method := 2, access := 1, body := some (.ofCode 2 [0x0012, 0x0011]) }] }
         staticValues := none }] }

/-- A request can give the stray method a name by which another request finds it. -/
theorem applyRequests_interfere :
    (∀ ref ∈ stray.poolRefs, stray.Leads ref) ∧
      (stray.applyRequests .invoke
            [.unqualified "a" .emptyList, .unqualified "emptyList" .emptyList]).1 ≠
          [Request.unqualified "a" .emptyList, .unqualified "emptyList" .emptyList].map
            fun request => (stray.applyRequest .invoke request).1 :=
  ⟨readable_paired.toInRange.closed.pools, by decide +kernel⟩

end Container

end DexPatch
