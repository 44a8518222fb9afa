import DexPatch.Proofs.Independence

namespace DexPatch

/-!
# The pools as an append-only table

A container whose pools refer to each other properly and have no entry twice
keeps both under any amount of interning.  Every number that is given out goes
on meaning what was asked for: it is read so, it is found, and to ask again
gives it again and changes nothing.
-/

/-- An entry that can be asked for. -/
inductive Wanted where
  | string (text : String)
  | type (descriptor : String)
  | proto (returnType : String) (parameters : List String)
  | field (declaringType name type : String)
  | method (declaringType name returnType : String) (parameters : List String)
deriving DecidableEq, Repr

namespace Container

variable {container : Container}

/-- The container with what is wanted, and its number. -/
def intern (container : Container) : Wanted → UInt32 × Container
  | .string text => container.internString text
  | .type descriptor => container.internType descriptor
  | .proto returnType parameters => container.internProto returnType parameters
  | .field declaringType name type => container.internField declaringType name type
  | .method declaringType name returnType parameters =>
    container.internMethod declaringType name returnType parameters

/-- The number of the first entry that is as wanted. -/
def find? (container : Container) : Wanted → Option UInt32
  | .string text => container.findString? text
  | .type descriptor => container.findType? descriptor
  | .proto returnType parameters => container.findProto? returnType parameters
  | .field declaringType name type => container.findField? declaringType name type
  | .method declaringType name returnType parameters =>
    container.findMethod? declaringType name returnType parameters

/-- The number is that of an entry that is as wanted. -/
def Reads (container : Container) : Wanted → UInt32 → Prop
  | .string text, index => container.StringReads index text
  | .type descriptor, index => container.TypeReads index descriptor
  | .proto returnType parameters, index => container.ProtoReads index returnType parameters
  | .field declaringType name type, index => container.FieldReads index declaringType name type
  | .method declaringType name returnType parameters, index =>
    container.MethodReads index declaringType name returnType parameters

/-- The container with all that is wanted, one entry after the other, and the numbers that were
given out. -/
def internAll (container : Container) : List Wanted → List UInt32 × Container
  | [] => ([], container)
  | wanted :: rest =>
    let (index, container) := container.intern wanted
    let (indices, container) := container.internAll rest
    (index :: indices, container)

/-! ## One entry -/

theorem interns_wanted (wanted : Wanted) : Interns (·.find? wanted) (·.intern wanted) := by
  cases wanted with
  | string text => exact interns_string text
  | type descriptor => exact interns_type descriptor
  | proto returnType parameters => exact interns_proto returnType parameters
  | field declaringType name type => exact interns_field declaringType name type
  | method declaringType name returnType parameters =>
      exact interns_method declaringType name returnType parameters

theorem accrued_intern (container : Container) (wanted : Wanted) :
    container.Accrued (container.intern wanted).2 := by
  cases wanted with
  | string text => exact container.accrued_internString text
  | type descriptor => exact container.accrued_internType descriptor
  | proto returnType parameters => exact container.accrued_internProto returnType parameters
  | field declaringType name type => exact container.accrued_internField declaringType name type
  | method declaringType name returnType parameters =>
      exact container.accrued_internMethod declaringType name returnType parameters

theorem reads_intern
    {wanted : Wanted}
    (numbered : (container.intern wanted).2.Numbered) :
    (container.intern wanted).2.Reads wanted (container.intern wanted).1 := by
  cases wanted with
  | string text => exact stringReads_internString numbered
  | type descriptor => exact typeReads_internType numbered
  | proto returnType parameters => exact protoReads_internProto numbered
  | field declaringType name type => exact fieldReads_internField numbered
  | method declaringType name returnType parameters => exact methodReads_internMethod numbered

/-- A number goes on being read as it was when pools grow. -/
theorem Extends.reads
    {before after : Container}
    (grown : before.Extends after)
    {wanted : Wanted}
    {index : UInt32}
    (reads : before.Reads wanted index) :
    after.Reads wanted index := by
  cases wanted with
  | string text => exact grown.stringReads reads
  | type descriptor => exact grown.typeReads reads
  | proto returnType parameters => exact grown.protoReads reads
  | field declaringType name type => exact grown.fieldReads reads
  | method declaringType name returnType parameters => exact grown.methodReads reads

/-! ## One entry after the other -/

theorem accrued_internAll (container : Container) (wanted : List Wanted) :
    container.Accrued (container.internAll wanted).2 := by
  induction wanted generalizing container with
  | nil =>
      exact .refl
  | cons first rest inductionHypothesis =>
      exact (container.accrued_intern first).trans (inductionHypothesis _)

/-- Each number that was given out is read as was asked for in the end. -/
theorem reads_internAll
    {wanted : List Wanted}
    (numbered : (container.internAll wanted).2.Numbered) :
    List.Forall₂ (container.internAll wanted).2.Reads wanted (container.internAll wanted).1 := by
  induction wanted generalizing container with
  | nil =>
      exact .nil
  | cons first rest inductionHypothesis =>
      have later := ((container.intern first).2.accrued_internAll rest).interned
      exact .cons (later.reads (reads_intern (later.numbered numbered)))
        (inductionHypothesis numbered)

/-- To ask again for what was given out is to get the same number, and changes nothing. -/
theorem intern_again
    {wanted : List Wanted}
    {later : Container}
    (grown : (container.internAll wanted).2.Extends later) :
    List.Forall₂ (fun entry index => later.intern entry = (index, later)) wanted
      (container.internAll wanted).1 := by
  induction wanted generalizing container with
  | nil =>
      exact .nil
  | cons first rest inductionHypothesis =>
      have between := ((container.intern first).2.accrued_internAll rest).interned
      exact .cons ((interns_wanted first).again (between.toExtends.trans grown))
        (inductionHypothesis grown)

/-! ## Searches in pools without repetition -/

/-- Where no two entries fulfil a condition, the number that a search gives is that of the entry
which does. -/
theorem map_findIdx?_eq_some_iff
    {α : Type}
    {entries : Array α}
    {holds : α → Bool}
    {apart : α → α → Prop}
    (few : entries.size ≤ 4294967296)
    (pairwise : entries.toList.Pairwise apart)
    (unique : ∀ one other, apart one other → holds one = true → holds other = false)
    {index : UInt32} :
    (entries.findIdx? holds).map UInt32.ofNat = some index ↔
      ∃ entry, entries[index.toNat]? = some entry ∧ holds entry = true := by
  constructor
  · intro found
    obtain ⟨place, isFirst, rfl⟩ := Option.map_eq_some_iff.mp found
    obtain ⟨entry, isEntry, here⟩ := getElem?_of_findIdx? isFirst
    exact ⟨entry, getElem?_ofNat few isEntry, here⟩
  · rintro ⟨entry, isEntry, here⟩
    obtain ⟨inside, rfl⟩ := Array.getElem?_eq_some_iff.mp isEntry
    have isFirst : entries.findIdx? holds = some index.toNat := by
      refine Array.findIdx?_eq_some_iff_getElem.mpr ⟨inside, here, fun place before there => ?_⟩
      have differ := List.pairwise_iff_getElem.mp pairwise place index.toNat
        (by simpa using Nat.lt_trans before inside) (by simpa using inside) before
      rw [Array.getElem_toList, Array.getElem_toList] at differ
      rw [unique _ _ differ there] at here
      exact Bool.false_ne_true here
    rw [isFirst, Option.map_some, UInt32.ofNat_toNat]

/-- A search for a text gives the number of the string that reads so, and nothing if there is
none. -/
theorem Distinct.findString?_eq_some_iff
    (distinct : container.Distinct)
    (numbered : container.Numbered)
    {text : String}
    {index : UInt32} :
    container.findString? text = some index ↔ container.StringReads index text := by
  rw [findString?, map_findIdx?_eq_some_iff numbered.strings distinct.strings, StringReads]
  · simp only [PoolString.reads, beq_iff_eq]
  · intro one other apart reads
    refine beq_eq_false_iff_ne.mpr fun same => apart ?_
    rw [same, eq_of_beq reads]

/-- A search for a descriptor gives the number of the type that reads so, and nothing if there is
none. -/
theorem Distinct.findType?_eq_some_iff
    (distinct : container.Distinct)
    (numbered : container.Numbered)
    {descriptor : String}
    {index : UInt32} :
    container.findType? descriptor = some index ↔ container.TypeReads index descriptor := by
  have unique (string : UInt32) (one other : UInt32) (apart : one ≠ other)
      (isString : (one == string) = true) : (other == string) = false := by
    rw [← eq_of_beq isString]
    exact beq_eq_false_iff_ne.mpr apart.symm
  simp only [findType?_eq, Option.bind_eq_some_iff, distinct.findString?_eq_some_iff numbered,
    map_findIdx?_eq_some_iff numbered.types distinct.types (unique _), TypeReads, beq_iff_eq]
  constructor
  · rintro ⟨string, reads, _, found, rfl⟩
    exact ⟨_, found, reads⟩
  · rintro ⟨string, found, reads⟩
    exact ⟨string, reads, string, found, rfl⟩

/-! ## The table -/

/-- Pools without repetition that refer to entries only. -/
structure Table (container : Container) : Prop extends Distinct container where
  lead : ∀ ref ∈ container.poolRefs, container.Leads ref

theorem Accrued.table
    {before after : Container}
    (accrued : before.Accrued after)
    (table : before.Table) :
    after.Table :=
  ⟨accrued.distinct table.toDistinct, accrued.poolRefs_lead table.lead⟩

/-- Interning only appends and keeps a table one.  As long as all entries have numbers, each number
given out is read as was asked for, and a search finds exactly what is there.  To ask again for
something, however much was interned since, gives the number that was given out and changes
nothing. -/
theorem internAll_table
    (table : container.Table)
    (wanted : List Wanted) :
    let indices := (container.internAll wanted).1
    let after := (container.internAll wanted).2
    container.Interned after ∧ after.Table ∧
      (after.Numbered →
          List.Forall₂ after.Reads wanted indices ∧
            ∀ text index,
              (after.findString? text = some index ↔ after.StringReads index text) ∧
                (after.findType? text = some index ↔ after.TypeReads index text)) ∧
        ∀ more : List Wanted,
          let later := (after.internAll more).2
          List.Forall₂ (fun entry index => later.intern entry = (index, later)) wanted indices := by
  have accrued := container.accrued_internAll wanted
  have tableThen := accrued.table table
  refine ⟨accrued.interned, tableThen, fun numbered => ?_, fun more => ?_⟩
  · exact ⟨reads_internAll numbered, fun text index =>
      ⟨tableThen.findString?_eq_some_iff numbered, tableThen.findType?_eq_some_iff numbered⟩⟩
  · exact intern_again ((container.internAll wanted).2.accrued_internAll more).interned.toExtends

theorem table_paired : paired.Table where
  strings := by decide +kernel
  types := by decide +kernel
  protos := by decide +kernel
  fields := by decide +kernel
  methods := by decide +kernel
  lead := readable_paired.toInRange.closed.pools

/-- A text outside ASCII with a zero character, and a new method of the pair with known parts. -/
theorem internAll_table_paired :
    let wanted := [Wanted.string "\x00é", .method "LC;" "c" "Z" ["L"], .string "\x00é"]
    (paired.Table ∧ (paired.internAll wanted).2.Numbered) ∧
      List.Forall₂ (paired.internAll wanted).2.Reads wanted (paired.internAll wanted).1 := by
  intro wanted
  have numbered : (paired.internAll wanted).2.Numbered := by
    constructor <;> decide +kernel
  exact ⟨⟨table_paired, numbered⟩,
    ((internAll_table table_paired wanted).2.2.1 numbered).1⟩

end Container

end DexPatch
