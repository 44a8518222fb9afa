import Mathlib.Data.List.Forall2
import DexPatch.Chain
import DexPatch.Patch.Spec
import DexPatch.Proofs.Listed

namespace DexPatch

open Text

/-!
# What a spec says

An entry asks for a request if it has a name in front of its first colon and the
name of a behavior behind it.  A spec gives the requests that its entries ask
for, in order, or the fault of the first entry that asks for none.  So two specs
with a semicolon between them say what each of them says, the second with later
positions, and entries that are written for requests give these requests,
whatever blanks stand around their parts.
-/

namespace Text

/-! ## Trimming -/

/-- Nothing is left of a text exactly if it is blank. -/
theorem trim_eq_nil_iff {text : List Char} : trim text = [] ↔ ∀ c ∈ text, isBlank c := by
  have front : text.dropWhile isBlank = [] ↔ ∀ c ∈ text, isBlank c := List.dropWhile_eq_nil_iff
  rw [trim, List.reverse_eq_nil_iff, List.dropWhile_eq_nil_iff, ← front]
  constructor
  · intro blank
    refine front.mpr fun c member => ?_
    by_cases isFront : c ∈ text.takeWhile isBlank
    · exact List.mem_takeWhile_imp isFront
    · refine blank c (List.mem_reverse.mpr ?_)
      rw [← List.takeWhile_append_dropWhile (p := isBlank) (l := text)] at member
      exact (List.mem_append.mp member).resolve_left isFront
  · intro nothing
    simp [nothing]

/-- What is left of a text does not depend on the blanks around it. -/
theorem trim_of_blank_around
    (front text back : List Char)
    (blankFront : ∀ c ∈ front, isBlank c)
    (blankBack : ∀ c ∈ back, isBlank c) :
    trim (front ++ text ++ back) = trim text := by
  rw [List.append_assoc, trim, List.dropWhile_append_of_pos blankFront, List.dropWhile_append]
  split
  · next nothing =>
    rw [trim, List.isEmpty_iff.mp nothing, List.dropWhile_eq_nil_iff.mpr blankBack]
  · have blankReverse : ∀ c ∈ back.reverse, isBlank c := fun c member =>
      blankBack c (List.mem_reverse.mp member)
    rw [trim, List.reverse_append, List.dropWhile_append_of_pos blankReverse]

/-- The core is the text without the blanks around it. -/
structure TrimsTo (text core : List Char) : Prop where
  around : ∃ front back,
    text = front ++ core ++ back ∧ (∀ c ∈ front, isBlank c) ∧ ∀ c ∈ back, isBlank c
  first : ∀ c ∈ core.head?, ¬ isBlank c
  last : ∀ c ∈ core.getLast?, ¬ isBlank c

/-- What stands behind the blanks in front of a text starts with no blank. -/
theorem not_isBlank_of_head?_dropWhile
    {text : List Char}
    {c : Char}
    (first : c ∈ (text.dropWhile isBlank).head?) :
    ¬ isBlank c := by
  have visible := List.head?_dropWhile_not isBlank text
  rw [Option.mem_def.mp first] at visible
  simpa using visible

/-- Trimming takes away the blanks around a text and no more. -/
theorem trimsTo_trim (text : List Char) : TrimsTo text (trim text) := by
  have back :
      trim text ++ ((text.dropWhile isBlank).reverse.takeWhile isBlank).reverse =
        text.dropWhile isBlank := by
    rw [trim, ← List.reverse_append, List.takeWhile_append_dropWhile, List.reverse_reverse]
  refine ⟨⟨text.takeWhile isBlank, ((text.dropWhile isBlank).reverse.takeWhile isBlank).reverse,
    ?_, fun c member => List.mem_takeWhile_imp member,
    fun c member => List.mem_takeWhile_imp (List.mem_reverse.mp member)⟩, fun c first => ?_,
    fun c last => ?_⟩
  · rw [List.append_assoc, back, List.takeWhile_append_dropWhile]
  · have isFirst : c ∈ (text.dropWhile isBlank).head? := by
      rw [← back, List.head?_append, Option.mem_def.mp first]
      rfl
    exact not_isBlank_of_head?_dropWhile isFirst
  · rw [trim, List.getLast?_reverse] at last
    exact not_isBlank_of_head?_dropWhile last

/-- A character that is not blank ends the blanks in front of a text. -/
theorem dropWhile_append_visible
    {c : Char}
    (visible : ¬ isBlank c)
    (front rest : List Char) :
    (front ++ c :: rest).dropWhile isBlank = front.dropWhile isBlank ++ c :: rest := by
  rw [List.dropWhile_append]
  split
  · next nothing =>
    rw [List.isEmpty_iff.mp nothing, List.dropWhile_cons_of_neg visible, List.nil_append]
  · rfl

/-- Trimming a text around a character that is not blank leaves this character. -/
theorem trim_append_visible
    {c : Char}
    (visible : ¬ isBlank c)
    (before after : List Char) :
    trim (before ++ c :: after) =
      before.dropWhile isBlank ++ c :: (after.reverse.dropWhile isBlank).reverse := by
  rw [trim, dropWhile_append_visible visible, List.reverse_append, List.reverse_cons,
    List.append_assoc, List.singleton_append, dropWhile_append_visible visible]
  simp

/-- Without the blanks in front of it a text has the same trimmed form. -/
theorem trim_dropWhile (text : List Char) : trim (text.dropWhile isBlank) = trim text := by
  have around := trim_of_blank_around (text.takeWhile isBlank) (text.dropWhile isBlank) []
    (fun c member => List.mem_takeWhile_imp member) (by simp)
  rwa [List.append_nil, List.takeWhile_append_dropWhile, eq_comm] at around

/-- Without the blanks behind it a text has the same trimmed form. -/
theorem trim_reverse_dropWhile (text : List Char) :
    trim (text.reverse.dropWhile isBlank).reverse = trim text := by
  have around := trim_of_blank_around [] (text.reverse.dropWhile isBlank).reverse
    (text.reverse.takeWhile isBlank).reverse (by simp)
    (fun c member => List.mem_takeWhile_imp (List.mem_reverse.mp member))
  rwa [List.nil_append, ← List.reverse_append, List.takeWhile_append_dropWhile,
    List.reverse_reverse, eq_comm] at around

end Text

namespace Behavior

/-- The name of a behavior has no blanks around it. -/
theorem trim_name (behavior : Behavior) : trim behavior.name.toList = behavior.name.toList := by
  cases behavior <;> decide +kernel

/-- Behaviors are known by their names and by no other texts. -/
theorem ofName?_eq_some_iff {name : String} {behavior : Behavior} :
    ofName? name = some behavior ↔ name = behavior.name := by
  constructor
  · intro found
    rw [ofName?] at found
    have same := List.find?_some found
    exact (beq_iff_eq.mp same).symm
  · rintro rfl
    exact ofName?_name behavior

end Behavior

namespace SpecError

/-- The same fault of an entry so many entries later. -/
def later (count : Nat) : SpecError → SpecError
  | .missingSeparator position entry => .missingSeparator (position + count) entry
  | .missingMethodName position entry => .missingMethodName (position + count) entry
  | .unknownBehavior position entry behavior => .unknownBehavior (position + count) entry behavior

end SpecError

namespace Spec

/-! ## What entries ask for -/

/-- The entry asks for the request: the name in front of its first colon is not blank, and the
name behind it is that of the behavior. -/
inductive Asks : List Char → Request → Prop
  | intro {before after : List Char} {behavior : Behavior}
      (firstColon : ':' ∉ before)
      (named : ∃ c ∈ before, ¬ isBlank c)
      (known : trim after = behavior.name.toList) :
      Asks (before ++ ':' :: after) (.unqualified (String.ofList (trim before)) behavior)

/-- What is told of an entry at a position that asks for no request. -/
inductive Fault (position : Nat) : List Char → SpecError → Prop
  | noColon {entry : List Char}
      (none : ':' ∉ entry) :
      Fault position entry (.missingSeparator position (String.ofList entry))
  | noName {before after : List Char}
      (firstColon : ':' ∉ before)
      (blank : ∀ c ∈ before, isBlank c) :
      Fault position (before ++ ':' :: after)
        (.missingMethodName position (String.ofList (before ++ ':' :: after)))
  | noBehavior {before after : List Char}
      (firstColon : ':' ∉ before)
      (named : ∃ c ∈ before, ¬ isBlank c)
      (unknown : ∀ behavior : Behavior, trim after ≠ behavior.name.toList) :
      Fault position (before ++ ':' :: after)
        (.unknownBehavior position (String.ofList (before ++ ':' :: after))
          (String.ofList (trim after)))

/-- The first entry that asks for no request has the fault; positions start at one. -/
def FirstFault (entries : List (List Char)) (reason : SpecError) : Prop :=
  ∃ before entry after requests,
    entries = before ++ entry :: after ∧
      List.Forall₂ Asks before requests ∧ Fault (before.length + 1) entry reason

/-- An entry that can be cut has its fault or its request by the name in front and the name behind. -/
theorem parseEntry_of_cut
    {before after : List Char}
    (firstColon : ':' ∉ before)
    (position : Nat) :
    parseEntry position (before ++ ':' :: after) =
      if (trim before).isEmpty then
        .error (.missingMethodName position (String.ofList (before ++ ':' :: after)))
      else
        match Behavior.ofName? (String.ofList (trim after)) with
        | none =>
          .error (.unknownBehavior position (String.ofList (before ++ ':' :: after))
            (String.ofList (trim after)))
        | some behavior => .ok (.unqualified (String.ofList (trim before)) behavior) := by
  have cut : cutAt ':' (before ++ ':' :: after) = some (before, after) :=
    cutAt_eq_some_iff.mpr ⟨rfl, firstColon⟩
  unfold parseEntry
  split
  · next uncut =>
    cases cut.symm.trans uncut
  · next found =>
    obtain ⟨rfl, rfl⟩ := Prod.mk.inj (Option.some.inj (cut.symm.trans found))
    rfl

/-- A name that is not blank is something when it is trimmed. -/
theorem not_isEmpty_trim {text : List Char} (named : ∃ c ∈ text, ¬ isBlank c) :
    ¬ (trim text).isEmpty := by
  rw [List.isEmpty_iff, trim_eq_nil_iff]
  intro blank
  obtain ⟨c, member, notBlank⟩ := named
  exact notBlank (blank c member)

theorem parseEntry_of_asks
    {entry : List Char}
    {request : Request}
    (asks : Asks entry request)
    (position : Nat) :
    parseEntry position entry = .ok request := by
  cases asks with
  | @intro before after behavior firstColon named known =>
      have isKnown : Behavior.ofName? (String.ofList (trim after)) = some behavior :=
        Behavior.ofName?_eq_some_iff.mpr (by rw [known, String.ofList_toList])
      rw [parseEntry_of_cut firstColon, if_neg (not_isEmpty_trim named), isKnown]

theorem parseEntry_of_fault
    {position : Nat}
    {entry : List Char}
    {reason : SpecError}
    (fault : Fault position entry reason) :
    parseEntry position entry = .error reason := by
  cases fault with
  | noColon none =>
      rw [parseEntry, cutAt_eq_none_iff.mpr none]
  | noName firstColon blank =>
      rw [parseEntry_of_cut firstColon, if_pos (List.isEmpty_iff.mpr (trim_eq_nil_iff.mpr blank))]
  | @noBehavior before after firstColon named unknown =>
      have isUnknown : Behavior.ofName? (String.ofList (trim after)) = none := by
        cases found : Behavior.ofName? (String.ofList (trim after)) with
        | none =>
            rfl
        | some behavior =>
            have name := Behavior.ofName?_eq_some_iff.mp found
            exact absurd (by rw [← name, String.toList_ofList]) (unknown behavior)
      rw [parseEntry_of_cut firstColon, if_neg (not_isEmpty_trim named), isUnknown]

/-- Every entry asks for a request or has a fault. -/
theorem asks_or_fault
    (position : Nat)
    (entry : List Char) :
    (∃ request, Asks entry request) ∨ ∃ reason, Fault position entry reason := by
  by_cases hasColon : ':' ∈ entry
  · obtain ⟨before, after, rfl, firstColon⟩ := List.eq_append_cons_of_mem hasColon
    by_cases named : ∃ c ∈ before, ¬ isBlank c
    · by_cases known : ∃ behavior : Behavior, trim after = behavior.name.toList
      · obtain ⟨behavior, isKnown⟩ := known
        exact .inl ⟨_, .intro firstColon named isKnown⟩
      · exact .inr ⟨_, .noBehavior firstColon named (not_exists.mp known)⟩
    · exact .inr ⟨_, .noName firstColon (by simpa using named)⟩
  · exact .inr ⟨_, .noColon hasColon⟩

theorem parseEntry_eq_ok_iff
    {position : Nat}
    {entry : List Char}
    {request : Request} :
    parseEntry position entry = .ok request ↔ Asks entry request := by
  refine ⟨fun parsed => ?_, fun asks => parseEntry_of_asks asks position⟩
  rcases asks_or_fault position entry with ⟨other, asks⟩ | ⟨reason, fault⟩
  · rw [parseEntry_of_asks asks] at parsed
    exact Except.ok.inj parsed ▸ asks
  · rw [parseEntry_of_fault fault] at parsed
    cases parsed

/-! ## Specs -/

/-- Entries give requests exactly if each asks for its own. -/
theorem parseFrom_eq_ok_iff
    {position : Nat}
    {entries : List (List Char)}
    {requests : List Request} :
    parseFrom position entries = .ok requests ↔ List.Forall₂ Asks entries requests := by
  induction entries generalizing position requests with
  | nil =>
      rw [parseFrom, List.forall₂_nil_left_iff, Except.ok.injEq, eq_comm]
  | cons entry rest inductionHypothesis =>
      rw [parseFrom, bind_eq_ok_iff]
      constructor
      · rintro ⟨request, parsed, followed⟩
        obtain ⟨others, parsedRest, shape⟩ := bind_eq_ok_iff.mp followed
        cases shape
        exact .cons (parseEntry_eq_ok_iff.mp parsed) (inductionHypothesis.mp parsedRest)
      · intro each
        cases each with
        | cons asks others =>
            exact ⟨_, parseEntry_of_asks asks position,
              bind_eq_ok_iff.mpr ⟨_, inductionHypothesis.mpr others, rfl⟩⟩

/-- The entries of two lists are read one list behind the other. -/
theorem parseFrom_append
    (position : Nat)
    (first second : List (List Char)) :
    parseFrom position (first ++ second) = do
      let requests ← parseFrom position first
      let others ← parseFrom (position + first.length) second
      return requests ++ others := by
  induction first generalizing position with
  | nil =>
      cases others : parseFrom position second <;>
        simp [parseFrom, others, bind, Except.bind, pure, Except.pure]
  | cons entry rest inductionHypothesis =>
      have positions : position + 1 + rest.length = position + (entry :: rest).length := by
        rw [List.length_cons]
        omega
      rw [List.cons_append, parseFrom, parseFrom, inductionHypothesis, positions]
      cases parseEntry position entry with
      | error reason =>
          rfl
      | ok request =>
          cases parseFrom (position + 1) rest with
          | error reason =>
              rfl
          | ok requests =>
              cases parseFrom (position + (entry :: rest).length) second <;> rfl

theorem parseEntry_later
    (position count : Nat)
    (entry : List Char) :
    parseEntry (position + count) entry =
      (parseEntry position entry).mapError (SpecError.later count) := by
  rcases asks_or_fault position entry with ⟨request, asks⟩ | ⟨reason, fault⟩
  · rw [parseEntry_of_asks asks, parseEntry_of_asks asks, mapError_ok]
  · rw [parseEntry_of_fault fault, mapError_error]
    refine parseEntry_of_fault ?_
    cases fault with
    | noColon none => exact .noColon none
    | noName firstColon blank => exact .noName firstColon blank
    | noBehavior firstColon named unknown => exact .noBehavior firstColon named unknown

/-- Later entries have the same faults at later positions. -/
theorem parseFrom_later
    (position count : Nat)
    (entries : List (List Char)) :
    parseFrom (position + count) entries =
      (parseFrom position entries).mapError (SpecError.later count) := by
  induction entries generalizing position with
  | nil =>
      rfl
  | cons entry rest inductionHypothesis =>
      rw [parseFrom, parseFrom, parseEntry_later, Nat.add_right_comm, inductionHypothesis,
        mapError_bind]
      congr 1
      funext request
      rw [mapError_bind]
      rfl

/-- Every list of entries asks for requests or has a first fault. -/
theorem asks_or_firstFault (entries : List (List Char)) :
    (∃ requests, List.Forall₂ Asks entries requests) ∨ ∃ reason, FirstFault entries reason := by
  induction entries using List.reverseRecOn with
  | nil =>
      exact .inl ⟨[], .nil⟩
  | append_singleton earlier last inductionHypothesis =>
      rcases inductionHypothesis with
        ⟨requests, each⟩ | ⟨reason, before, entry, after, requests, first⟩
      · rcases asks_or_fault (earlier.length + 1) last with ⟨request, asks⟩ | ⟨reason, fault⟩
        · exact .inl ⟨requests ++ [request], List.rel_append each (.cons asks .nil)⟩
        · exact .inr ⟨reason, earlier, last, [], requests, rfl, each, fault⟩
      · obtain ⟨rfl, each, fault⟩ := first
        exact .inr ⟨reason, before, entry, after ++ [last], requests, by simp, each, fault⟩

theorem parseFrom_of_firstFault
    {entries : List (List Char)}
    {reason : SpecError}
    (first : FirstFault entries reason) :
    parseFrom 1 entries = .error reason := by
  obtain ⟨before, entry, after, requests, rfl, each, fault⟩ := first
  rw [parseFrom_append, bind_of_ok (parseFrom_eq_ok_iff.mpr each), parseFrom, Nat.add_comm 1,
    parseEntry_of_fault fault]
  rfl

/-- Entries are refused exactly with the fault of the first one that has a fault. -/
theorem parseFrom_eq_error_iff
    {entries : List (List Char)}
    {reason : SpecError} :
    parseFrom 1 entries = .error reason ↔ FirstFault entries reason := by
  refine ⟨fun failed => ?_, parseFrom_of_firstFault⟩
  rcases asks_or_firstFault entries with ⟨requests, each⟩ | ⟨other, first⟩
  · rw [parseFrom_eq_ok_iff.mpr each] at failed
    cases failed
  · rw [parseFrom_of_firstFault first] at failed
    exact Except.error.inj failed ▸ first

/-! ## The entries of a spec -/

/-- The list has the entries of the text: of what stands between semicolons all that is not blank,
without the blanks around it. -/
def EntriesOf (text : String) (list : List (List Char)) : Prop :=
  ∃ segments : List (List Char),
    segments ≠ [] ∧ (∀ segment ∈ segments, ';' ∉ segment) ∧
      [';'].intercalate segments = text.toList ∧
        List.Forall₂ TrimsTo (segments.filter fun segment => segment.any (!isBlank ·)) list

/-- A segment leaves something when it is trimmed exactly if it is not blank. -/
theorem not_isEmpty_trim_eq (segment : List Char) :
    (!(trim segment).isEmpty) = segment.any (!isBlank ·) := by
  rw [Bool.eq_iff_iff, Bool.not_eq_true', ← Bool.not_eq_true, List.isEmpty_iff, trim_eq_nil_iff]
  simp

theorem entriesOf_entries (text : String) : EntriesOf text (entries text) := by
  refine ⟨splitAt ';' text.toList, splitAt_ne_nil _ _, fun _ => notMem_of_mem_splitAt,
    intercalate_splitAt _ _, ?_⟩
  have filtered :
      entries text =
        ((splitAt ';' text.toList).filter fun segment => segment.any (!isBlank ·)).map trim := by
    rw [entries, List.filter_map]
    congr 2
    exact funext not_isEmpty_trim_eq
  rw [filtered, List.forall₂_map_right_iff, List.forall₂_same]
  exact fun segment _ => trimsTo_trim segment

/-! ## Two specs in one -/

/-- The entries of two specs with a semicolon between them. -/
theorem entries_append (first second : String) :
    entries (first ++ ";" ++ second) = entries first ++ entries second := by
  have text : (first ++ ";" ++ second).toList = first.toList ++ ';' :: second.toList := by
    simp [String.toList_append]
  rw [entries, text, splitAt_append_cons, List.map_append, List.filter_append, entries, entries]

/-- Two specs with a semicolon between them say what each of them says. -/
theorem parse_append (first second : String) :
    parse (first ++ ";" ++ second) =
      match parse first with
      | .error reason => .error reason
      | .ok requests =>
        match parse second with
        | .error reason => .error (reason.later (entries first).length)
        | .ok others => .ok (requests ++ others) := by
  rw [parse, entries_append, parseFrom_append, parseFrom_later, ← parse, ← parse]
  cases parse first with
  | error reason =>
      rfl
  | ok requests =>
      cases parse second <;> rfl

/-! ## Written specs -/

/-- Characters that are all blank. -/
structure Blanks where
  chars : List Char
  blank : ∀ c ∈ chars, isBlank c

/-- The blanks around the two parts of an entry. -/
structure Spacing where
  beforeName : Blanks
  afterName : Blanks
  beforeBehavior : Blanks
  afterBehavior : Blanks

/-- The entry for a request. -/
def Spacing.entry (spacing : Spacing) (request : Request) : List Char :=
  spacing.beforeName.chars ++ request.methodName.toList ++ spacing.afterName.chars ++
    ':' :: (spacing.beforeBehavior.chars ++ request.behavior.name.toList ++
      spacing.afterBehavior.chars)

/-- The entries for requests, with semicolons between them. -/
def written (pieces : List (Spacing × Request)) : String :=
  String.ofList ([';'].intercalate (pieces.map fun piece => piece.1.entry piece.2))

/-- The name can stand in a spec: it is not blank, has no blanks around it, and holds none of the
two characters that have a meaning there. -/
structure Speakable (name : List Char) : Prop where
  named : ∃ c ∈ name, ¬ isBlank c
  trimmed : trim name = name
  noSemicolon : ';' ∉ name
  noColon : ':' ∉ name

/-- An entry asks for the same when it is trimmed. -/
theorem Asks.trim
    {entry : List Char}
    {request : Request}
    (asks : Asks entry request) :
    Asks (Text.trim entry) request := by
  cases asks with
  | @intro before after behavior firstColon named known =>
      rw [trim_append_visible (by decide), ← trim_dropWhile before]
      refine .intro (fun member => firstColon ((List.dropWhile_sublist _).subset member)) ?_ ?_
      · obtain ⟨c, member, visible⟩ := named
        rw [← List.takeWhile_append_dropWhile (p := isBlank) (l := before)] at member
        refine ⟨c, (List.mem_append.mp member).resolve_left fun isFront => ?_, visible⟩
        exact visible (List.mem_takeWhile_imp isFront)
      · rw [trim_reverse_dropWhile, known]

theorem notMem_blanks
    {c : Char}
    (visible : ¬ isBlank c)
    (blanks : Blanks) :
    c ∉ blanks.chars :=
  fun member => visible (blanks.blank c member)

section Entry

variable {request : Request} (speakable : Speakable request.methodName.toList) (spacing : Spacing)

include speakable

/-- An entry that is written for a request asks for its name and its behavior. -/
theorem asks_entry :
    Asks (spacing.entry request) (.unqualified request.methodName request.behavior) := by
  have name :
      trim (spacing.beforeName.chars ++ request.methodName.toList ++ spacing.afterName.chars) =
        request.methodName.toList := by
    rw [trim_of_blank_around _ _ _ spacing.beforeName.blank spacing.afterName.blank,
      speakable.trimmed]
  have firstColon :
      ':' ∉ spacing.beforeName.chars ++ request.methodName.toList ++ spacing.afterName.chars := by
    simp only [List.mem_append, not_or]
    exact ⟨⟨notMem_blanks (by decide) _, speakable.noColon⟩, notMem_blanks (by decide) _⟩
  have named :
      ∃ c ∈ spacing.beforeName.chars ++ request.methodName.toList ++ spacing.afterName.chars,
        ¬ isBlank c := by
    obtain ⟨c, member, visible⟩ := speakable.named
    exact ⟨c, List.mem_append_left _ (List.mem_append_right _ member), visible⟩
  have known :
      trim (spacing.beforeBehavior.chars ++ request.behavior.name.toList ++
          spacing.afterBehavior.chars) =
        request.behavior.name.toList := by
    rw [trim_of_blank_around _ _ _ spacing.beforeBehavior.blank spacing.afterBehavior.blank,
      Behavior.trim_name]
  have asks := Asks.intro firstColon named known
  rwa [name, String.ofList_toList] at asks

/-- An entry that is written for a request is one piece of a spec. -/
theorem semicolon_notMem_entry : ';' ∉ spacing.entry request := by
  have behavior : ';' ∉ request.behavior.name.toList := by
    cases request.behavior <;> decide +kernel
  have blanks (blanks : Blanks) : ';' ∉ blanks.chars := notMem_blanks (by decide) blanks
  simp only [Spacing.entry, List.mem_append, List.mem_cons, not_or]
  exact ⟨⟨⟨blanks _, speakable.noSemicolon⟩, blanks _⟩, by decide, ⟨blanks _, behavior⟩, blanks _⟩

end Entry

/-- An entry that asks for something is not blank. -/
theorem Asks.ne_nil
    {entry : List Char}
    {request : Request}
    (asks : Asks entry request) :
    entry ≠ [] := by
  cases asks
  simp

/-- The entries of a written spec are those that were written. -/
theorem entries_written
    {pieces : List (Spacing × Request)}
    (speakable : ∀ piece ∈ pieces, Speakable piece.2.methodName.toList) :
    entries (written pieces) = pieces.map fun piece => trim (piece.1.entry piece.2) := by
  by_cases empty : pieces = []
  · subst empty
    decide
  · have split :
        splitAt ';' (written pieces).toList = pieces.map fun piece => piece.1.entry piece.2 := by
      rw [written, String.toList_ofList, splitAt_intercalate (by simpa using empty)]
      intro entry member
      obtain ⟨piece, isPiece, rfl⟩ := List.mem_map.mp member
      exact semicolon_notMem_entry (speakable piece isPiece) piece.1
    rw [entries, split, List.map_map, List.filter_eq_self.mpr]
    · rfl
    · intro entry member
      obtain ⟨piece, isPiece, rfl⟩ := List.mem_map.mp member
      simpa using (asks_entry (speakable piece isPiece) piece.1).trim.ne_nil

/-- Entries that are written for requests give these requests, without their qualifiers. -/
theorem parse_written
    {pieces : List (Spacing × Request)}
    (speakable : ∀ piece ∈ pieces, Speakable piece.2.methodName.toList) :
    parse (written pieces) =
      .ok (pieces.map fun piece => .unqualified piece.2.methodName piece.2.behavior) := by
  rw [parse, entries_written speakable, parseFrom_eq_ok_iff, List.forall₂_map_left_iff,
    List.forall₂_map_right_iff, List.forall₂_same]
  exact fun piece isPiece => (asks_entry (speakable piece isPiece) piece.1).trim

/-- A spec gives exactly the requests that all of its entries ask for, or the fault of the first
entry that asks for none.  Two specs in one say what each says, and a spec that is written for
requests gives them. -/
theorem parse_all_or_nothing :
    (∀ text, EntriesOf text (entries text)) ∧
      (∀ text requests, parse text = .ok requests ↔ List.Forall₂ Asks (entries text) requests) ∧
      (∀ text reason, parse text = .error reason ↔ FirstFault (entries text) reason) ∧
      (∀ first second,
        parse (first ++ ";" ++ second) =
          match parse first with
          | .error reason => .error reason
          | .ok requests =>
            match parse second with
            | .error reason => .error (reason.later (entries first).length)
            | .ok others => .ok (requests ++ others)) ∧
      ∀ pieces : List (Spacing × Request),
        (∀ piece ∈ pieces, Speakable piece.2.methodName.toList) →
          parse (written pieces) =
              .ok (pieces.map fun piece => .unqualified piece.2.methodName piece.2.behavior) ∧
            ((∀ piece ∈ pieces,
                piece.2.declaringType = none ∧ piece.2.parameterTypes = none) →
              parse (written pieces) = .ok (pieces.map (·.2))) := by
  refine ⟨entriesOf_entries, fun text requests => parseFrom_eq_ok_iff,
    fun text reason => parseFrom_eq_error_iff, parse_append, fun pieces speakable => ?_⟩
  have gives := parse_written speakable
  refine ⟨gives, fun unqualified => ?_⟩
  rw [gives, Except.ok.injEq]
  refine List.map_congr_left fun piece isPiece => ?_
  obtain ⟨noType, noParameters⟩ := unqualified piece isPiece
  rw [Request.unqualified, ← noType, ← noParameters]

/-- Two entries with blanks of several kinds around their parts. -/
def spaced : List (Spacing × Request) :=
  let none : Blanks := ⟨[], by simp⟩
  let some : Blanks := ⟨[' ', '\u00a0', '\t', '\u3000'], by simp [isBlank]⟩
  [(⟨none, none, none, none⟩, .unqualified "isSecureLocked" .constantFalse),
    (⟨some, some, some, some⟩, .unqualified "größe von x" .emptyList)]

theorem parse_all_or_nothing_spaced :
    (∀ piece ∈ spaced, Speakable piece.2.methodName.toList) ∧
      parse (written spaced) = .ok (spaced.map (·.2)) := by
  have first : Speakable "isSecureLocked".toList :=
    ⟨⟨'i', by simp, by decide⟩, by cbv, by simp, by simp⟩
  have second : Speakable "größe von x".toList :=
    ⟨⟨'g', by simp, by decide⟩, by cbv, by simp, by simp⟩
  have speakable : ∀ piece ∈ spaced, Speakable piece.2.methodName.toList :=
    List.forall_mem_cons.mpr ⟨first, List.forall_mem_singleton.mpr second⟩
  have unqualified :
      ∀ piece ∈ spaced, piece.2.declaringType = none ∧ piece.2.parameterTypes = none :=
    List.forall_mem_cons.mpr ⟨⟨rfl, rfl⟩, List.forall_mem_singleton.mpr ⟨rfl, rfl⟩⟩
  exact ⟨speakable, (parse_all_or_nothing.2.2.2.2 spaced speakable).2 unqualified⟩

end Spec

end DexPatch
