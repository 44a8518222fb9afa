import DexPatch.Patch.Tables
import DexPatch.Proofs.Json

namespace DexPatch

/-!
# Tables survive being written

Tables are values made of texts, arrays and records, so their text is read as
the value that it was written for.  A record gives each field that is in it and
nothing for a qualifier that was left out, while an empty qualifier is written
like any other.  So the tables that are read are those that were written, and
all that is left to ask of them is that every request names a method.
-/

/-! ## Lists and records -/

/-- A list is read if each of its items is. -/
theorem mapM_map_eq_some
    {α β : Type}
    {write : α → β}
    {read : β → Option α}
    (each : ∀ item, read (write item) = some item)
    (items : List α) :
    (items.map write).mapM read = some items := by
  have same : read ∘ write = fun item => pure (id item) := funext each
  rw [List.mapM_map, same, List.mapM_pure, List.map_id]
  rfl

namespace Json.Value

/-- A text is read as that text. -/
@[simp]
theorem text?_ofText (text : String) : (ofText text).text? = some text :=
  textOfUnits?_units text

/-- A record gives what its members have under the names of the fields. -/
theorem fields?_record
    (names : List String)
    (members : List (String × Value)) :
    (record members).fields? names = names.mapM (memberNamed? members) := by
  have read :
      (members.map fun member => (Text.units member.1, member.2)).mapM
          (fun member => (textOfUnits? member.1).map fun name => (name, member.2)) =
        some members :=
    mapM_map_eq_some (fun member => by rw [textOfUnits?_units]; rfl) members
  exact (congrArg (·.bind fun members => names.mapM (memberNamed? members)) read).trans rfl

/-- An array is made of texts if each of its items is. -/
theorem textual_array_map
    {α : Type}
    {write : α → Value}
    (each : ∀ item, (write item).Textual)
    (items : List α) :
    (array (items.map write)).Textual := by
  refine .array _ fun value isValue => ?_
  obtain ⟨item, -, rfl⟩ := List.mem_map.mp isValue
  exact each item

end Json.Value

/-! ## Requests -/

namespace Behavior

/-- A behavior is read from its name. -/
@[simp]
theorem ofJson?_name (behavior : Behavior) :
    ofJson? (.ofText behavior.name) = some behavior := by
  show (Json.Value.ofText behavior.name).text?.bind ofName? = some behavior
  rw [Json.Value.text?_ofText, Option.bind_some, ofName?_name]

end Behavior

namespace Request

/-- A list of texts is read, whether or not it is empty. -/
@[simp]
theorem texts?_array (texts : List String) :
    texts? (.array (texts.map .ofText)) = some texts :=
  mapM_map_eq_some Json.Value.text?_ofText texts

/-- A field that is there is read unless it is `null`. -/
theorem optionalField?_some
    {α : Type}
    {read : Json.Value → Option α}
    {value : Json.Value}
    (present : value ≠ .null) :
    optionalField? read (some value) = (read value).map some := by
  rw [optionalField?]
  rintro rfl
  exact present rfl

/-- A request is read from its JSON, with the same qualifiers left out. -/
theorem ofJson?_toJson (request : Request) : ofJson? request.toJson = some request := by
  obtain ⟨methodName, declaringType, parameterTypes, behavior⟩ := request
  have readsType (descriptor : String) :
      optionalField? Json.Value.text? (some (.ofText descriptor)) = some (some descriptor) := by
    rw [optionalField?_some (by rw [Json.Value.ofText]; simp), Json.Value.text?_ofText,
      Option.map_some]
  have readsParameters (descriptors : List String) :
      optionalField? texts? (some (.array (descriptors.map .ofText))) =
        some (some descriptors) := by
    rw [optionalField?_some (by simp), texts?_array, Option.map_some]
  have leftOut {α : Type} (read : Json.Value → Option α) :
      optionalField? read none = some none := rfl
  rw [ofJson?, toJson, Json.Value.fields?_record]
  -- Which members there are to look among depends on the qualifiers that are given.
  cases declaringType <;> cases parameterTypes <;>
    simp [fieldNames, Json.Value.memberNamed?, readsType, readsParameters, leftOut]

/-- A request is made of texts. -/
theorem textual_toJson (request : Request) : request.toJson.Textual := by
  refine .record _ fun member isMember => ?_
  simp only [List.mem_append, List.mem_cons, List.mem_map, Option.mem_toList,
    List.not_mem_nil, or_false] at isMember
  rcases isMember with ((rfl | ⟨descriptor, -, rfl⟩) | ⟨descriptors, -, rfl⟩) | rfl
  · exact .text _
  · exact .text _
  · exact Json.Value.textual_array_map .text descriptors
  · exact .text _

/-- The method name is not blank. -/
def Named (request : Request) : Prop := ∃ c ∈ request.methodName.toList, ¬ Text.isBlank c

/-- A request without a name is one whose name is blank. -/
theorem isNameless_iff {request : Request} : request.isNameless ↔ ¬ request.Named := by
  simp [isNameless, Named]

end Request

/-! ## Tables -/

namespace PatchTable

/-- A table is read from its JSON. -/
theorem ofJson?_toJson (table : PatchTable) : ofJson? table.toJson = some table := by
  obtain ⟨jarName, requests⟩ := table
  rw [ofJson?, toJson, Json.Value.fields?_record]
  simp [Json.Value.memberNamed?, Json.Value.items?, mapM_map_eq_some Request.ofJson?_toJson]

/-- A table is made of texts. -/
theorem textual_toJson (table : PatchTable) : table.toJson.Textual := by
  refine .record _ (List.forall_mem_cons.mpr ⟨.text _, List.forall_mem_singleton.mpr ?_⟩)
  exact Json.Value.textual_array_map Request.textual_toJson table.requests

/-- Every request of the table names a method. -/
def Named (table : PatchTable) : Prop := ∀ request ∈ table.requests, request.Named

/-- The check of a table is whether one of its requests names no method. -/
theorem any_isNameless_iff {table : PatchTable} :
    table.requests.any (·.isNameless) ↔ ∃ request ∈ table.requests, ¬ request.Named := by
  simp only [List.any_eq_true, Request.isNameless_iff]

end PatchTable

namespace PatchTables

/-- Tables are read from their JSON. -/
theorem ofJson?_toJson (tables : PatchTables) : ofJson? tables.toJson = some tables := by
  obtain ⟨tables⟩ := tables
  rw [ofJson?, toJson, Json.Value.fields?_record]
  simp [Json.Value.memberNamed?, Json.Value.items?, mapM_map_eq_some PatchTable.ofJson?_toJson]

/-- Tables are made of texts. -/
theorem textual_toJson (tables : PatchTables) : tables.toJson.Textual := by
  refine .record _ (List.forall_mem_singleton.mpr ?_)
  exact Json.Value.textual_array_map PatchTable.textual_toJson tables.tables

/-- Tables are read from their text, but for what is asked of their names. -/
theorem read_render (tables : PatchTables) :
    (Json.parse? tables.render).bind ofJson? = some tables := by
  rw [render, Json.parse?_render tables.textual_toJson, Option.bind_some, ofJson?_toJson]

example :
    ({ tables := [{ jarName := "a.jar", requests := [.unqualified "x" .constantTrue] }] } :
        PatchTables).render =
      "\x7b\"tables\":[\x7b\"jar_name\":\"a.jar\",\"methods\":[" ++
        "\x7b\"method_name\":\"x\",\"behavior\":\"RET_TRUE\"\x7d]\x7d]\x7d" := by
  cbv

/-- The text of tables gives these tables if every request in them names a method; otherwise it
gives the first table with a request that names none. -/
theorem parse_render (tables : PatchTables) :
    ((∀ table ∈ tables.tables, table.Named) → parse tables.render = .ok tables) ∧
      ((∃ table ∈ tables.tables, ∃ request ∈ table.requests, ¬ request.Named) →
        ∃ earlier table later,
          tables.tables = earlier ++ table :: later ∧
            (∀ other ∈ earlier, other.Named) ∧
            (∃ request ∈ table.requests, ¬ request.Named) ∧
            parse tables.render = .error (.emptyMethodName table.jarName)) := by
  rw [parse, read_render]
  constructor
  · intro named
    have passes :
        tables.tables.find? (fun table => table.requests.any (·.isNameless)) = none := by
      refine List.find?_eq_none.mpr fun table isTable nameless => ?_
      obtain ⟨request, isRequest, unnamed⟩ := PatchTable.any_isNameless_iff.mp nameless
      exact unnamed (named table isTable request isRequest)
    simp only [passes]
  · rintro ⟨table, isTable, unnamed⟩
    have fails :
        (tables.tables.find? fun table => table.requests.any (·.isNameless)).isSome :=
      List.find?_isSome.mpr ⟨table, isTable, PatchTable.any_isNameless_iff.mpr unnamed⟩
    obtain ⟨first, isFirst⟩ := Option.isSome_iff_exists.mp fails
    obtain ⟨nameless, earlier, later, split, before⟩ := List.find?_eq_some_iff_append.mp isFirst
    refine ⟨earlier, first, later, split, fun other isOther request isRequest => ?_,
      PatchTable.any_isNameless_iff.mp nameless, by simp only [isFirst]⟩
    by_contra isUnnamed
    have passes := before other isOther
    rw [PatchTable.any_isNameless_iff.mpr ⟨request, isRequest, isUnnamed⟩] at passes
    cases passes

/-- A table whose texts hold quotes, backslashes, controls and characters of every size. -/
def spelledOut : PatchTable :=
  { jarName := "C:\\\"größe\".jar\u0000"
    requests :=
      [{ methodName := "\u0007€😀\n", declaringType := some "", parameterTypes := some []
         behavior := .emptyList },
        { methodName := " \\u0041", declaringType := none
          parameterTypes := some ["", "L\t/\u007f;"], behavior := .constantTrue }] }

/-- A table with a request whose name is blank. -/
def unnamed : PatchTable :=
  { jarName := "\"", requests := [.unqualified "\u3000\t" .constantFalse] }

theorem parse_render_spelledOut :
    parse { tables := [spelledOut] : PatchTables }.render = .ok { tables := [spelledOut] } ∧
      parse { tables := [spelledOut, unnamed] : PatchTables }.render =
        .error (.emptyMethodName "\"") := by
  have named : spelledOut.Named :=
    List.forall_mem_cons.mpr
      ⟨⟨'€', by simp, by decide⟩, List.forall_mem_singleton.mpr ⟨'u', by simp, by decide⟩⟩
  have blank : ∃ request ∈ unnamed.requests, ¬ request.Named :=
    ⟨_, List.mem_singleton_self _, by simp [Request.Named, Request.unqualified, Text.isBlank]⟩
  refine ⟨(parse_render { tables := [spelledOut] }).1 (List.forall_mem_singleton.mpr named), ?_⟩
  obtain ⟨earlier, table, later, split, before, ⟨request, isRequest, isUnnamed⟩, fails⟩ :=
    (parse_render { tables := [spelledOut, unnamed] }).2 ⟨unnamed, by simp, blank⟩
  rcases earlier with _ | ⟨first, _ | ⟨second, others⟩⟩
  · obtain ⟨rfl, -⟩ := List.cons.inj split
    exact absurd (named request isRequest) isUnnamed
  · simp only [List.cons_append, List.nil_append, List.cons.injEq] at split
    rw [fails, ← split.2.1, unnamed]
  · simp at split

end PatchTables

end DexPatch
