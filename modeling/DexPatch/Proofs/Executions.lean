import DexPatch.Command.Patch
import DexPatch.Proofs.FileTrees
import DexPatch.Proofs.Patchings

namespace DexPatch

/-!
# Executions of the patch command

An execution collects the requests, reads the input, patches it and writes
what it gives, and it ends at the first step that fails.  Only the last step
changes a file, and it is taken exactly if something is patched.
-/

/-! ## Steps -/

/-- What comes behind a step goes on with its result, in the state that it leaves. -/
theorem StateM.run_bind_of
    {σ α β : Type}
    {operation : StateM σ α}
    {next : α → StateM σ β}
    {value : α}
    {before between : σ}
    (first : operation.run before = (value, between)) :
    (operation >>= next).run before = (next value).run between := by
  rw [StateT.run_bind, first]
  rfl

/-- The first step ends with an error and the rest is left out, or it gives a value and the rest goes
on with it. -/
theorem ExceptT.run_bind_cases
    {σ ε α β : Type}
    {operation : ExceptT ε (StateM σ) α}
    {next : α → ExceptT ε (StateM σ) β}
    {before after : σ}
    {result : Except ε β}
    (ran : (operation >>= next).run.run before = (result, after)) :
    (∃ reason, operation.run.run before = (.error reason, after) ∧ result = .error reason) ∨
      ∃ value between,
        operation.run.run before = (.ok value, between) ∧
          (next value).run.run between = (result, after) := by
  cases first : operation.run.run before with
  | mk outcome between =>
    rw [ExceptT.run_bind, StateT.run_bind, first] at ran
    cases outcome with
    | error reason =>
        cases ran
        exact .inl ⟨reason, rfl, rfl⟩
    | ok value =>
        exact .inr ⟨value, between, rfl, ran⟩

/-- The result of a step is told in other words. -/
theorem ExceptT.run_mk_map_cases
    {σ α ε β : Type}
    {operation : StateM σ α}
    {change : α → Except ε β}
    {before after : σ}
    {result : Except ε β}
    (ran : (ExceptT.mk (change <$> operation)).run.run before = (result, after)) :
    ∃ outcome, operation.run before = (outcome, after) ∧ change outcome = result := by
  cases first : operation.run before with
  | mk outcome between =>
    rw [ExceptT.run_mk, StateT.run_map, first] at ran
    cases ran
    exact ⟨outcome, rfl, rfl⟩

namespace Invocation

variable {σ : Type} [Files (StateM σ)] {invocation : Invocation} {before after : σ}

/-! ## Requests -/

/-- The tables are those of the file that is named, or the built-in ones. -/
def TablesAre (invocation : Invocation) (tree : FileTree) (tables : PatchTables) : Prop :=
  match invocation.tables with
  | none => tables = .builtIn
  | some path =>
    ∃ content, tree.read path = .ok content ∧ PatchTables.ofBytes path content = .ok tables

/-- The requests of the table are those for the archive that is named, if one is. -/
def TableRequestsAre
    (invocation : Invocation)
    (tree : FileTree)
    (requests : List Request) :
    Prop :=
  match invocation.jar with
  | none => requests = []
  | some jar =>
    ∃ tables, invocation.TablesAre tree tables ∧ tables.requestsFor jar = .ok requests

/-- There is something to take requests from, and they are those of the spec in the order of its
entries, and then those of the table. -/
structure Collects (invocation : Invocation) (tree : FileTree) (requests : List Request) : Prop where
  source : invocation.spec.isSome = true ∨ invocation.jar.isSome = true
  tables : invocation.tables.isSome = true → invocation.jar.isSome = true
  parts :
    ∃ listed tabled,
      invocation.specRequests = .ok listed ∧
        invocation.TableRequestsAre tree tabled ∧ requests = listed ++ tabled

/-- No more has been looked at than the file with the tables. -/
inductive LooksUp (invocation : Invocation) (before : σ) : σ → Prop where
  | nothing : LooksUp invocation before before
  | tables
      {path : String}
      {content : Except FileError Bytes}
      {after : σ}
      (named : invocation.tables = some path)
      (isRead : (Files.read (m := StateM σ) path).run before = (content, after)) :
      LooksUp invocation before after

theorem LooksUp.tree_eq
    [LawfulFiles σ]
    (looksUp : invocation.LooksUp before after) :
    LawfulFiles.tree after = LawfulFiles.tree before := by
  cases looksUp with
  | nothing => rfl
  | tables named isRead => exact LawfulFiles.tree_read isRead

theorem loadTables_cases
    [LawfulFiles σ]
    {loaded : Except TablesError PatchTables}
    (ran : (invocation.loadTables (m := StateM σ)).run before = (loaded, after)) :
    invocation.LooksUp before after ∧
      ∀ tables, loaded = .ok tables → invocation.TablesAre (LawfulFiles.tree before) tables := by
  rw [loadTables] at ran
  cases named : invocation.tables with
  | none =>
      simp only [named] at ran
      cases ran
      refine ⟨.nothing, fun tables isLoaded => ?_⟩
      rw [TablesAre, named]
      exact (Except.ok.inj isLoaded).symm
  | some path =>
      simp only [named, PatchTables.load] at ran
      cases isRead : (Files.read (m := StateM σ) path).run before with
      | mk result looked =>
        rw [StateM.run_bind_of isRead] at ran
        cases result with
        | error reason =>
            cases ran
            exact ⟨.tables named isRead, fun tables isLoaded => by cases isLoaded⟩
        | ok content =>
            cases ran
            refine ⟨.tables named isRead, fun tables isLoaded => ?_⟩
            rw [TablesAre, named]
            exact ⟨content, LawfulFiles.read_ok isRead, isLoaded⟩

theorem tableRequests_cases
    [LawfulFiles σ]
    {result : Except CommandError (List Request)}
    (ran : (invocation.tableRequests (m := StateM σ)).run.run before = (result, after)) :
    invocation.LooksUp before after ∧
      ∀ requests, result = .ok requests →
        invocation.TableRequestsAre (LawfulFiles.tree before) requests := by
  rw [tableRequests] at ran
  cases named : invocation.jar with
  | none =>
      simp only [named] at ran
      cases ran
      refine ⟨.nothing, fun requests isResult => ?_⟩
      rw [TableRequestsAre, named]
      exact (Except.ok.inj isResult).symm
  | some jar =>
      simp only [named] at ran
      rcases ExceptT.run_bind_cases ran with ⟨reason, loads, rfl⟩ | ⟨tables, between, loads, rest⟩
      · obtain ⟨loaded, isLoaded, -⟩ := ExceptT.run_mk_map_cases loads
        exact ⟨(loadTables_cases isLoaded).1, fun requests isResult => by cases isResult⟩
      · obtain ⟨loaded, isLoaded, isTables⟩ := ExceptT.run_mk_map_cases loads
        obtain ⟨looksUp, areTables⟩ := loadTables_cases isLoaded
        cases rest
        refine ⟨looksUp, fun requests isResult => ?_⟩
        rw [TableRequestsAre, named]
        exact ⟨tables, areTables tables (mapError_eq_ok_iff.mp isTables),
          mapError_eq_ok_iff.mp isResult⟩

theorem checkArguments_eq_ok_iff :
    invocation.checkArguments = .ok () ↔
      (invocation.spec.isSome = true ∨ invocation.jar.isSome = true) ∧
        (invocation.tables.isSome = true → invocation.jar.isSome = true) := by
  rw [checkArguments]
  cases invocation.spec <;> cases invocation.jar <;> cases invocation.tables <;> simp

/-- Collecting requests looks at no other file than that with the tables, and gives the requests of
the spec and those of the table. -/
theorem collectRequests_cases
    [LawfulFiles σ]
    {result : Except CommandError (List Request)}
    (ran : (invocation.collectRequests (m := StateM σ)).run.run before = (result, after)) :
    invocation.LooksUp before after ∧
      ∀ requests, result = .ok requests →
        invocation.Collects (LawfulFiles.tree before) requests := by
  rw [collectRequests] at ran
  rcases ExceptT.run_bind_cases ran with ⟨reason, checks, rfl⟩ | ⟨_, between, checks, ran⟩
  · cases (Prod.mk.inj checks).2
    exact ⟨.nothing, fun requests isResult => by cases isResult⟩
  obtain ⟨isChecked, rfl⟩ := Prod.mk.inj checks
  obtain ⟨source, named⟩ := checkArguments_eq_ok_iff.mp isChecked
  rcases ExceptT.run_bind_cases ran with ⟨reason, parses, rfl⟩ | ⟨listed, between, parses, ran⟩
  · obtain ⟨-, rfl⟩ := Prod.mk.inj parses
    exact ⟨.nothing, fun requests isResult => by cases isResult⟩
  obtain ⟨isListed, rfl⟩ := Prod.mk.inj parses
  rcases ExceptT.run_bind_cases ran with ⟨reason, tables, rfl⟩ | ⟨tabled, between, tables, ran⟩
  · exact ⟨(tableRequests_cases tables).1, fun requests isResult => by cases isResult⟩
  · obtain ⟨looksUp, areTabled⟩ := tableRequests_cases tables
    cases ran
    refine ⟨looksUp, fun requests isResult => ?_⟩
    exact ⟨source, named, listed, tabled, isListed, areTabled tabled rfl,
      (Except.ok.inj isResult).symm⟩

/-! ## The input -/

/-- Reading the input changes no file, and gives the content of one. -/
theorem readInput_cases
    [LawfulFiles σ]
    {result : Except CommandError Bytes}
    (ran : (invocation.readInput (m := StateM σ)).run.run before = (result, after)) :
    LawfulFiles.tree after = LawfulFiles.tree before ∧
      ∀ content, result = .ok content →
        (LawfulFiles.tree before).isRegular invocation.input = .ok true ∧
          (LawfulFiles.tree before).read invocation.input = .ok content := by
  rw [readInput] at ran
  rcases ExceptT.run_bind_cases ran with ⟨reason, looks, rfl⟩ | ⟨regular, between, looks, ran⟩
  · obtain ⟨outcome, looked, -⟩ := ExceptT.run_mk_map_cases looks
    exact ⟨LawfulFiles.tree_isRegular looked, fun content isResult => by cases isResult⟩
  obtain ⟨outcome, looked, isRegular⟩ := ExceptT.run_mk_map_cases looks
  have sameTree := LawfulFiles.tree_isRegular looked
  obtain rfl := mapError_eq_ok_iff.mp isRegular
  cases regular with
  | false =>
      cases ran
      exact ⟨sameTree, fun content isResult => by cases isResult⟩
  | true =>
      obtain ⟨outcome, isRead, isContent⟩ := ExceptT.run_mk_map_cases ran
      refine ⟨(LawfulFiles.tree_read isRead).trans sameTree, fun content isResult => ?_⟩
      rw [isResult] at isContent
      obtain rfl := mapError_eq_ok_iff.mp isContent
      refine ⟨LawfulFiles.isRegular_ok looked, ?_⟩
      rw [← sameTree]
      exact LawfulFiles.read_ok isRead

/-- The requests are collected and the input is read before anything else, and no file is changed by
that. -/
theorem prepare_cases
    [LawfulFiles σ]
    {result : Except CommandError (List Request × Bytes)}
    (ran : (invocation.prepare (m := StateM σ)).run.run before = (result, after)) :
    LawfulFiles.tree after = LawfulFiles.tree before ∧
      ∀ requests input, result = .ok (requests, input) →
        invocation.Collects (LawfulFiles.tree before) requests ∧
          (LawfulFiles.tree before).isRegular invocation.input = .ok true ∧
            (LawfulFiles.tree before).read invocation.input = .ok input := by
  rw [prepare] at ran
  rcases ExceptT.run_bind_cases ran with ⟨reason, collects, rfl⟩ | ⟨found, looked, collects, ran⟩
  · exact ⟨(collectRequests_cases collects).1.tree_eq, fun requests input isResult => by
      cases isResult⟩
  obtain ⟨looksUp, collected⟩ := collectRequests_cases collects
  rcases ExceptT.run_bind_cases ran with ⟨reason, reads, rfl⟩ | ⟨content, opened, reads, ran⟩
  · exact ⟨(readInput_cases reads).1.trans looksUp.tree_eq, fun requests input isResult => by
      cases isResult⟩
  obtain ⟨sameTree, isRead⟩ := readInput_cases reads
  cases ran
  refine ⟨sameTree.trans looksUp.tree_eq, fun requests input isResult => ?_⟩
  cases isResult
  have sameFiles := looksUp.tree_eq
  rw [sameFiles] at isRead
  exact ⟨collected found rfl, isRead content rfl⟩

end Invocation

/-! ## Executions -/

/-- How an execution without an error is summed up. -/
def Patching.summary (patching : Patching) (requests : List Request) (written : Bool) : Summary :=
  { requests := requests.length
    patched := patching.reported.countP (·.2.isPatched)
    written }

namespace Invocation

variable {σ : Type} [Files (StateM σ)] {invocation : Invocation} {before after : σ}
  {report : Report}

/-- What an execution does to the input once it has been read. -/
def patching (invocation : Invocation) (requests : List Request) (input : Bytes) : Patching :=
  Patching.ofInput invocation.form input requests

/-- The ways in which an execution ends, with what is reported and the state that it leaves. -/
inductive Ends (invocation : Invocation) (before : σ) : Report → σ → Prop where
  | unprepared
      {reason : CommandError}
      {after : σ}
      (prepares : (invocation.prepare (m := StateM σ)).run.run before = (.error reason, after)) :
      Ends invocation before { reported := [], result := .error reason } after
  | failed
      {requests : List Request}
      {input : Bytes}
      {reason : CommandError}
      {after : σ}
      (prepares :
        (invocation.prepare (m := StateM σ)).run.run before = (.ok (requests, input), after))
      (fails : (invocation.patching requests input).output = .error reason) :
      Ends invocation before
        { reported := (invocation.patching requests input).reported, result := .error reason }
        after
  | unpatched
      {requests : List Request}
      {input : Bytes}
      {after : σ}
      (prepares :
        (invocation.prepare (m := StateM σ)).run.run before = (.ok (requests, input), after))
      (finishes : (invocation.patching requests input).output = .ok none) :
      Ends invocation before
        { reported := (invocation.patching requests input).reported
          result := .ok ((invocation.patching requests input).summary requests false) }
        after
  | unwritten
      {requests : List Request}
      {input content : Bytes}
      {cause : FileError}
      {opened after : σ}
      (prepares :
        (invocation.prepare (m := StateM σ)).run.run before = (.ok (requests, input), opened))
      (finishes : (invocation.patching requests input).output = .ok (some content))
      (writes :
        (Files.write (m := StateM σ) invocation.output content).run opened =
          (.error cause, after)) :
      Ends invocation before
        { reported := (invocation.patching requests input).reported
          result := .error (.outputUnwritable invocation.output cause) }
        after
  | written
      {requests : List Request}
      {input content : Bytes}
      {opened after : σ}
      (prepares :
        (invocation.prepare (m := StateM σ)).run.run before = (.ok (requests, input), opened))
      (finishes : (invocation.patching requests input).output = .ok (some content))
      (writes :
        (Files.write (m := StateM σ) invocation.output content).run opened = (.ok (), after)) :
      Ends invocation before
        { reported := (invocation.patching requests input).reported
          result := .ok ((invocation.patching requests input).summary requests true) }
        after

/-- What an execution has done that ends with a summary. -/
structure Succeeds
    (invocation : Invocation)
    (requests : List Request)
    (input : Bytes)
    (before after : FileTree)
    (reported : List (Option String × Outcome))
    (summary : Summary) :
    Prop where
  collected : invocation.Collects before requests
  isRegular : before.isRegular invocation.input = .ok true
  isRead : before.read invocation.input = .ok input
  labelled : reported.map label = Patching.labels input requests
  counted : summary.requests = requests.length
  patched : summary.patched = reported.countP (·.2.isPatched)
  writes_iff : summary.written = true ↔ 0 < summary.patched
  unwritten : summary.written = false → after = before
  written :
    summary.written = true →
      ∃ path content,
        before.LeadsTo invocation.output path ∧
          FileTree.SameBut path before after ∧
            after.read invocation.output = .ok content ∧
              PatchedFrom invocation.form requests input content

open LawfulFiles

variable [LawfulFiles σ]

/-- An error changes no file, unless the output could not be written. -/
theorem Ends.tree_eq
    (ends : invocation.Ends before report after)
    {reason : CommandError}
    (failed : report.result = .error reason)
    (other : ∀ path cause, reason ≠ .outputUnwritable path cause) :
    tree after = tree before := by
  cases ends with
  | unprepared prepares => exact (prepare_cases prepares).1
  | failed prepares => exact (prepare_cases prepares).1
  | unwritten => exact (other _ _ (Except.error.inj failed).symm).elim
  | unpatched | written => cases failed

/-- Nothing is reported before the input has been read. -/
theorem Ends.labels_isPrefix (ends : invocation.Ends before report after) :
    report.reported = [] ∨
      ∃ requests input,
        invocation.Collects (tree before) requests ∧
          (tree before).read invocation.input = .ok input ∧
            report.reported.map label <+: Patching.labels input requests := by
  cases ends with
  | unprepared => exact .inl rfl
  | @failed requests input _ _ prepares
  | @unpatched requests input _ prepares
  | @unwritten requests input _ _ _ _ prepares
  | @written requests input _ _ _ prepares =>
      obtain ⟨collects, -, reads⟩ := (prepare_cases prepares).2 requests input rfl
      exact .inr ⟨requests, input, collects, reads, (Patching.labels_ofInput ..).1⟩

/-- An execution succeeds that has written the new content, or had none to write and has left all
files as they were. -/
theorem succeeds_of_output
    {requests : List Request}
    {input : Bytes}
    {output : Option Bytes}
    {opened : σ}
    (prepares :
      (invocation.prepare (m := StateM σ)).run.run before = (.ok (requests, input), opened))
    (finishes : (invocation.patching requests input).output = .ok output)
    (unwritten : output = none → tree after = tree before)
    (written :
      ∀ content ∈ output, ∃ path,
        (tree before).LeadsTo invocation.output path ∧
          FileTree.SameBut path (tree before) (tree after) ∧
            (tree after).read invocation.output = .ok content) :
    invocation.Succeeds requests input (tree before) (tree after)
      (invocation.patching requests input).reported
      ((invocation.patching requests input).summary requests output.isSome) := by
  obtain ⟨collected, isRegular, isRead⟩ := (prepare_cases prepares).2 requests input rfl
  refine
    { collected, isRegular, isRead
      labelled := (Patching.labels_ofInput ..).2 output finishes
      counted := rfl
      patched := rfl
      writes_iff := Patching.isSome_of_output finishes
      unwritten := fun isUnwritten =>
        unwritten (Option.isNone_iff_eq_none.mp (Option.isSome_eq_false_iff.mp isUnwritten))
      written := fun isWritten => ?_ }
  obtain ⟨content, rfl⟩ := Option.isSome_iff_exists.mp isWritten
  obtain ⟨path, leads, sameBut, holds⟩ := written content rfl
  exact ⟨path, content, leads, sameBut, holds, .of_output finishes⟩

/-- An execution that ends with a summary has collected the requests and read the input, and has
written the output exactly if something is patched. -/
theorem Ends.succeeds
    (ends : invocation.Ends before report after)
    {summary : Summary}
    (finished : report.result = .ok summary) :
    ∃ requests input,
      invocation.Succeeds requests input (tree before) (tree after) report.reported summary := by
  cases ends with
  | unprepared | failed | unwritten => cases finished
  | @unpatched requests input _ prepares finishes =>
      obtain rfl := Except.ok.inj finished
      refine ⟨requests, input, succeeds_of_output prepares finishes (fun _ => ?_) ?_⟩
      · exact (prepare_cases prepares).1
      · rintro content ⟨⟩
  | @written requests input content _ _ prepares finishes writes =>
      obtain rfl := Except.ok.inj finished
      refine ⟨requests, input, succeeds_of_output prepares finishes (by rintro ⟨⟩) ?_⟩
      rintro other isContent
      obtain rfl := Option.mem_some_iff.mp isContent
      rw [← (prepare_cases prepares).1]
      exact exists_sameBut_of_write writes

end Invocation

end DexPatch
