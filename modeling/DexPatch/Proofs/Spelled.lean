import Mathlib
import DexPatch.Proofs.AppendOnly
import DexPatch.Proofs.CodeUnits
import DexPatch.Proofs.Edits
import DexPatch.Proofs.Entries

namespace DexPatch

open Text PoolString

/-!
# Entries by their code units

Searches, interning and the locating of methods all compare the view of a
string with a text.  Where the view of every string shows all its units, they
find, give out and take entries by their units: no string passes for a text that
it does not spell.
-/

/-- The pool of an entry that can be asked for. -/
def Wanted.pool : Wanted → Pool
  | .string _ => .string
  | .type _ => .type
  | .proto _ _ => .proto
  | .field _ _ _ => .field
  | .method _ _ _ _ => .method

/-- The entry has the code units of what is asked for, in each of its strings. -/
def Wanted.IsSpelledBy : Wanted → PoolEntry → Prop
  | .string text, .string stored => stored.Spells text
  | .type descriptor, .type stored => stored.Spells descriptor
  | .proto returnType parameters, .proto _ returned taken =>
    returned.Spells returnType ∧ List.Forall₂ Spells taken parameters
  | .field declaringType name fieldType, .field declaring held named =>
    declaring.Spells declaringType ∧ named.Spells name ∧ held.Spells fieldType
  | .method declaringType name returnType parameters,
    .method declaring (.proto _ returned taken) named =>
    declaring.Spells declaringType ∧ named.Spells name ∧ returned.Spells returnType ∧
      List.Forall₂ Spells taken parameters
  | _, _ => False

/-- The method has the code units that the request asks for, in each of its strings. -/
def Request.IsSpelledBy (request : Request) : PoolEntry → Prop
  | .method declaring (.proto _ returned taken) named =>
    named.Spells request.methodName ∧ returned.Spells request.behavior.returnType ∧
      (∀ declaringType ∈ request.declaringType, declaring.Spells declaringType) ∧
        ∀ parameterTypes ∈ request.parameterTypes, List.Forall₂ Spells taken parameterTypes
  | _ => False

namespace Container

variable {container : Container}

/-- No string of the container passes for a text whose code units it does not have. -/
structure KeepsTextsApart (container : Container) : Prop where
  reads :
    ∀ string ∈ container.strings, ∀ text, string.reads text = true ↔ string.Spells text
  /-- Bytes that are UTF-8 are the text of the units by which the pool is ordered. -/
  quick :
    ∀ string ∈ container.strings, ∀ text, utf8? string.data = some text → string.Spells text
  finds :
    ∀ text, container.findString? text =
      (container.strings.findIdx? fun string => decide (string.Spells text)).map UInt32.ofNat
  /-- Whatever is interned, each number that is given out is that of an entry spelled so. -/
  interns :
    ∀ wanted : List Wanted, (container.internAll wanted).2.Numbered →
      List.Forall₂
        (fun entry index =>
          ∃ found, (container.internAll wanted).2.meaning? entry.pool index = some found ∧
            entry.IsSpelledBy found)
        wanted (container.internAll wanted).1
  /-- A request fits the methods with a body that are spelled as it asks for. -/
  locates :
    ∀ request : Request, ∀ record ∈ container.records,
      ∃ found, container.poolMethod? record.method = some found ∧
        (request.fits record = true ↔ record.hasBody = true ∧ request.IsSpelledBy found)

/-! ## Strings of entries -/

/-- The view of every string shows all units. -/
def ShowsUnits (container : Container) : Prop := ∀ string ∈ container.strings, string.ShowsUnits

theorem ShowsUnits.spells_iff
    (shows : container.ShowsUnits)
    {string : PoolString}
    (member : string ∈ container.strings)
    (text : String) :
    string.Spells text ↔ string.text = text := by
  rw [← reads_iff_spells_iff.mpr (shows string member) text, PoolString.reads, beq_iff_eq]

/-- New strings are those of texts, so interning keeps it that all units are shown. -/
theorem Accrued.showsUnits
    {before after : Container}
    (accrued : before.Accrued after)
    (shows : before.ShowsUnits) :
    after.ShowsUnits := by
  induction accrued with
  | refl => exact shows
  | tail _ oneMore inductionHypothesis =>
      cases oneMore with
      | string text isNew =>
          exact Array.forall_mem_push.mpr ⟨showsUnits_ofText text, inductionHypothesis⟩
      | type | proto | field | method => exact inductionHypothesis

section Interning

variable (shows : container.ShowsUnits)

include shows

theorem StringReads.spelled
    {index : UInt32}
    {text : String}
    (reads : container.StringReads index text) :
    ∃ string, container.string? index = some string ∧ string.Spells text := by
  obtain ⟨string, found, isText⟩ := reads
  exact ⟨string, found, (shows.spells_iff (Array.mem_of_getElem? found) text).mpr isText⟩

theorem TypeReads.spelled
    {index : UInt32}
    {descriptor : String}
    (reads : container.TypeReads index descriptor) :
    ∃ string, container.type? index = some string ∧ string.Spells descriptor := by
  obtain ⟨number, found, stringReads⟩ := reads
  obtain ⟨string, isString, spells⟩ := stringReads.spelled shows
  exact ⟨string, by rw [type?, found, Option.bind_some, isString], spells⟩

theorem exists_types?_of_reads
    {types : List UInt32}
    {descriptors : List String}
    (reads : List.Forall₂ container.TypeReads types descriptors) :
    ∃ strings, types.mapM container.type? = some strings ∧
      List.Forall₂ Spells strings descriptors := by
  induction reads with
  | nil =>
      exact ⟨[], List.mapM_nil, .nil⟩
  | cons head _ inductionHypothesis =>
      obtain ⟨string, isString, spells⟩ := head.spelled shows
      obtain ⟨strings, areStrings, spell⟩ := inductionHypothesis
      exact ⟨string :: strings, by simp [List.mapM_cons, isString, areStrings], .cons spells spell⟩

theorem ProtoReads.spelled
    (pools : ∀ ref ∈ container.poolRefs, container.Leads ref)
    {index : UInt32}
    {returnType : String}
    {parameters : List String}
    (reads : container.ProtoReads index returnType parameters) :
    ∃ shorty returned taken,
      container.proto? index = some (.proto shorty returned taken) ∧
        returned.Spells returnType ∧ List.Forall₂ Spells taken parameters := by
  obtain ⟨proto, found, returnReads, parametersRead⟩ := reads
  have lead := (forall_poolRefs_iff.mp pools).2.1 proto (Array.mem_of_getElem? found)
  have inside : proto.shorty.toNat < container.strings.size :=
    (Proto.forall_mem_refs_iff.mp lead).1.1
  obtain ⟨returned, isReturned, spells⟩ := returnReads.spelled shows
  obtain ⟨taken, areTaken, spell⟩ := exists_types?_of_reads shows parametersRead
  refine ⟨container.strings[proto.shorty.toNat], returned, taken, ?_, spells, spell⟩
  simp [proto?, found, string?, inside, isReturned, areTaken]

theorem FieldReads.spelled
    {index : UInt32}
    {declaringType name type : String}
    (reads : container.FieldReads index declaringType name type) :
    ∃ declaring held named,
      container.field? index = some (.field declaring held named) ∧
        declaring.Spells declaringType ∧ named.Spells name ∧ held.Spells type := by
  obtain ⟨id, found, declaringReads, nameReads, typeReads⟩ := reads
  obtain ⟨declaring, isDeclaring, spellsDeclaring⟩ := declaringReads.spelled shows
  obtain ⟨named, isNamed, spellsName⟩ := nameReads.spelled shows
  obtain ⟨held, isHeld, spellsType⟩ := typeReads.spelled shows
  refine ⟨declaring, held, named, ?_, spellsDeclaring, spellsName, spellsType⟩
  simp [field?, found, isDeclaring, isHeld, isNamed]

theorem MethodReads.spelled
    (pools : ∀ ref ∈ container.poolRefs, container.Leads ref)
    {index : UInt32}
    {declaringType name returnType : String}
    {parameters : List String}
    (reads : container.MethodReads index declaringType name returnType parameters) :
    ∃ declaring shorty returned taken named,
      container.poolMethod? index =
          some (.method declaring (.proto shorty returned taken) named) ∧
        declaring.Spells declaringType ∧ named.Spells name ∧ returned.Spells returnType ∧
          List.Forall₂ Spells taken parameters := by
  obtain ⟨id, found, declaringReads, nameReads, protoReads⟩ := reads
  obtain ⟨declaring, isDeclaring, spellsDeclaring⟩ := declaringReads.spelled shows
  obtain ⟨named, isNamed, spellsName⟩ := nameReads.spelled shows
  obtain ⟨shorty, returned, taken, isProto, spellProto⟩ := protoReads.spelled shows pools
  refine ⟨declaring, shorty, returned, taken, named, ?_, spellsDeclaring, spellsName, spellProto⟩
  simp [poolMethod?, found, isDeclaring, isProto, isNamed]

/-- An entry that reads as was asked for is spelled so. -/
theorem Reads.spelled
    (pools : ∀ ref ∈ container.poolRefs, container.Leads ref)
    {wanted : Wanted}
    {index : UInt32}
    (reads : container.Reads wanted index) :
    ∃ found, container.meaning? wanted.pool index = some found ∧ wanted.IsSpelledBy found := by
  cases wanted with
  | string text =>
      obtain ⟨stored, found, spells⟩ := StringReads.spelled shows reads
      exact ⟨.string stored, congrArg (Option.map PoolEntry.string) found, spells⟩
  | type descriptor =>
      obtain ⟨stored, found, spells⟩ := TypeReads.spelled shows reads
      exact ⟨.type stored, congrArg (Option.map PoolEntry.type) found, spells⟩
  | proto returnType parameters =>
      obtain ⟨shorty, returned, taken, found, spell⟩ := ProtoReads.spelled shows pools reads
      exact ⟨_, found, spell⟩
  | field declaringType name type =>
      obtain ⟨declaring, held, named, found, spell⟩ := FieldReads.spelled shows reads
      exact ⟨_, found, spell⟩
  | method declaringType name returnType parameters =>
      obtain ⟨declaring, shorty, returned, taken, named, found, spell⟩ :=
        MethodReads.spelled shows pools reads
      exact ⟨_, found, spell⟩

end Interning

/-! ## Searches -/

theorem findIdx?_congr
    {α : Type}
    {holds others : α → Bool}
    {entries : Array α}
    (same : ∀ entry ∈ entries, holds entry = others entry) :
    entries.findIdx? holds = entries.findIdx? others := by
  obtain ⟨list⟩ := entries
  simp only [List.mem_toArray] at same
  rw [List.findIdx?_toArray, List.findIdx?_toArray]
  induction list with
  | nil =>
      rfl
  | cons entry rest inductionHypothesis =>
      obtain ⟨head, later⟩ := List.forall_mem_cons.mp same
      rw [List.findIdx?_cons, List.findIdx?_cons, head, inductionHypothesis later]

/-- A search for a text finds the first string that spells it. -/
theorem ShowsUnits.findString?_eq
    (shows : container.ShowsUnits)
    (text : String) :
    container.findString? text =
      (container.strings.findIdx? fun string => decide (string.Spells text)).map UInt32.ofNat := by
  rw [findString?, findIdx?_congr fun string member => ?_]
  rw [PoolString.reads, Bool.eq_iff_iff, beq_iff_eq, decide_eq_true_eq,
    shows.spells_iff member text]

/-! ## Methods -/

/-- A string spells one text only. -/
theorem spells_iff_of_spells
    {string : PoolString}
    {text : String}
    (spells : string.Spells text)
    (other : String) :
    string.Spells other ↔ text = other := by
  constructor
  · intro spellsOther
    exact units_injective ((show string.units = _ from spells).symm.trans spellsOther)
  · rintro rfl
    exact spells

/-- Strings spell one list of texts only. -/
theorem forall₂_spells_iff_of_spells
    {strings : List PoolString}
    {texts : List String}
    (spell : List.Forall₂ Spells strings texts)
    (others : List String) :
    List.Forall₂ Spells strings others ↔ texts = others := by
  constructor
  · intro spellOthers
    induction spell generalizing others with
    | nil =>
        rw [List.forall₂_nil_left_iff.mp spellOthers]
    | cons head _ inductionHypothesis =>
        obtain ⟨other, rest, spellsOther, spellRest, rfl⟩ :=
          List.forall₂_cons_left_iff.mp spellOthers
        rw [(spells_iff_of_spells head other).mp spellsOther, inductionHypothesis rest spellRest]
  · rintro rfl
    exact spell

/-- A request fits the methods with a body that are spelled as it asks for. -/
theorem fits_iff_spelled
    (closed : container.Closed)
    (shows : container.ShowsUnits)
    (request : Request)
    {record : MethodRecord}
    (member : record ∈ container.records) :
    ∃ found, container.poolMethod? record.method = some found ∧
      (request.fits record = true ↔ record.hasBody = true ∧ request.IsSpelledBy found) := by
  obtain ⟨declaring, shorty, returned, taken, named, found, spellsDeclaring, spellsName,
    spellsReturned, spellTaken⟩ := (closed.methodReads_of_mem member).spelled shows closed.pools
  refine ⟨_, found, ?_⟩
  simp only [Request.fits, Request.IsSpelledBy, Bool.and_eq_true, beq_iff_eq, Option.all_eq_true,
    spells_iff_of_spells spellsDeclaring, spells_iff_of_spells spellsName,
    spells_iff_of_spells spellsReturned, forall₂_spells_iff_of_spells spellTaken]
  tauto

/-! ## All strings -/

/-- Strings are told from texts by their code units, wherever the two are compared, exactly if the
view of every string shows all its units. -/
theorem keepsTextsApart_iff (closed : container.Closed) :
    container.KeepsTextsApart ↔ ∀ string ∈ container.strings, string.ShowsUnits := by
  constructor
  · intro apart string member
    exact reads_iff_spells_iff.mp (apart.reads string member)
  · intro shows
    exact
      { reads := fun string member => reads_iff_spells_iff.mpr (shows string member)
        quick := fun string member text isText =>
          (spells_utf8_iff isText).mpr ((shows string member).basic text isText)
        finds := ShowsUnits.findString?_eq shows
        interns := fun wanted numbered =>
          have accrued := container.accrued_internAll wanted
          (reads_internAll numbered).imp fun _ _ reads =>
            reads.spelled (accrued.showsUnits shows) (accrued.poolRefs_lead closed.pools)
        locates := fun request _ member => fits_iff_spelled closed shows request member }

/-- A container with methods and a string for a character outside the basic plane. -/
def pictured : Container := { paired with strings := paired.strings.push (.ofText "😀") }

theorem closed_pictured : pictured.Closed where
  pools := fun ref refers =>
    (interned_push_string (zero_notMem_ofText "😀")).leads
      (readable_paired.toInRange.closed.pools ref refers)
  methods := readable_paired.toInRange.closed.methods

/-- The stored surrogate pair of the character keeps it apart from all other texts. -/
theorem keepsTextsApart_iff_pictured :
    pictured.Closed ∧ pictured.findString? "😀" = some 6 ∧ pictured.KeepsTextsApart := by
  have shown : ∀ string ∈ pictured.strings, string.Spells string.text := by decide +kernel
  exact ⟨closed_pictured, by decide +kernel,
    (keepsTextsApart_iff closed_pictured).mpr fun string member =>
      spells_text_iff.mp (shown string member)⟩

/-- A container with a surrogate that has no partner and with a character outside the basic plane
in four bytes of UTF-8. -/
def mistaken : Container :=
  { empty with
    strings :=
      #[{ data := [0xed, 0xa0, 0x80], utf16Length := 1 },
        { data := [0xf0, 0x9f, 0x98, 0x80], utf16Length := 2 }] }

theorem decode_mistaken : decode mistaken.image = .ok mistaken :=
  decode_image (by decide +kernel) (by simp [mistaken, empty]) (size_image_lt (by cbv))

/-- The surrogate passes for the replacement character and the four bytes for the character, and
neither has the units of these texts. -/
theorem not_keepsTextsApart_mistaken :
    decode mistaken.image = .ok mistaken ∧
      mistaken.findString? "\ufffd" = some 0 ∧ mistaken.findString? "😀" = some 1 ∧
        (∀ string ∈ mistaken.strings, ¬ string.Spells "\ufffd" ∧ ¬ string.Spells "😀") ∧
          ¬ mistaken.KeepsTextsApart := by
  have found : mistaken.findString? "\ufffd" = some 0 := by decide +kernel
  refine ⟨decode_mistaken, found, by decide +kernel, by decide +kernel, fun apart => ?_⟩
  have unspelled :
      (mistaken.strings.findIdx? fun string => decide (string.Spells "\ufffd")) = none := by
    decide +kernel
  rw [apart.finds, unspelled] at found
  cases found

end Container

end DexPatch
