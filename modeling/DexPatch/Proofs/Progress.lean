import Mathlib.Logic.Function.Iterate
import DexPatch.Proofs.ShortestValues

namespace DexPatch

/-!
# Reading values makes progress

Whoever reads a value takes a byte for it and another one for each value inside
it, so the bytes that are taken bound the values that are given and the depth
to which they nest.  A value inside another one stands behind the first byte of
that, so the bytes that are left bound the depth to which the readers call each
other, whatever counts stand in the data.  The bound that the reader is given
is never what ends it: the reader is the one that calls itself without a bound.
-/

/-! ## The size of a value -/

mutual

/-- The number of values in a value, itself included. -/
def Value.nodes : Value → Nat
  | .array items => Value.nodesOfItems items + 1
  | .annotated _ elements => Value.nodesOfElements elements + 1
  | _ => 1

/-- The number of values in a list of them. -/
def Value.nodesOfItems : List Value → Nat
  | [] => 0
  | item :: rest => item.nodes + Value.nodesOfItems rest

/-- The number of values in a list of named ones. -/
def Value.nodesOfElements : List (UInt32 × Value) → Nat
  | [] => 0
  | (_, value) :: rest => value.nodes + Value.nodesOfElements rest

end

mutual

/-- How deep values nest in a value, one with nothing inside being one deep. -/
def Value.depth : Value → Nat
  | .array items => Value.depthOfItems items + 1
  | .annotated _ elements => Value.depthOfElements elements + 1
  | _ => 1

/-- How deep values nest in a list of them. -/
def Value.depthOfItems : List Value → Nat
  | [] => 0
  | item :: rest => max item.depth (Value.depthOfItems rest)

/-- How deep values nest in a list of named ones. -/
def Value.depthOfElements : List (UInt32 × Value) → Nat
  | [] => 0
  | (_, value) :: rest => max value.depth (Value.depthOfElements rest)

end

namespace Value

/-- A bound on the values inside a list passes to the list. -/
theorem sizeOfItems_le
    {items : List Value}
    (each : ∀ item ∈ items, item.depth ≤ item.nodes ∧ item.nodes ≤ item.bytes.length) :
    depthOfItems items ≤ nodesOfItems items ∧
      nodesOfItems items ≤ (items.map fun item => item.bytes.length).sum := by
  induction items with
  | nil =>
      simp [depthOfItems, nodesOfItems]
  | cons item rest inductionHypothesis =>
      obtain ⟨first, others⟩ := List.forall_mem_cons.mp each
      have later := inductionHypothesis others
      simp only [depthOfItems, nodesOfItems, List.map_cons, List.sum_cons]
      omega

/-- A bound on the values inside a list of named ones passes to the list. -/
theorem sizeOfElements_le
    {elements : List (UInt32 × Value)}
    (each :
      ∀ part ∈ elements.map (·.2), part.depth ≤ part.nodes ∧ part.nodes ≤ part.bytes.length) :
    depthOfElements elements ≤ nodesOfElements elements ∧
      nodesOfElements elements ≤
        (elements.map fun element =>
          (Leb128.unsigned element.1).length + element.2.bytes.length).sum := by
  induction elements with
  | nil =>
      simp [depthOfElements, nodesOfElements]
  | cons element rest inductionHypothesis =>
      rw [List.map_cons] at each
      obtain ⟨first, others⟩ := List.forall_mem_cons.mp each
      have later := inductionHypothesis others
      simp only [depthOfElements, nodesOfElements, List.map_cons, List.sum_cons]
      omega

/-- A value nests no deeper than it has values, and is written in no fewer bytes. -/
theorem size_le (value : Value) :
    value.depth ≤ value.nodes ∧ value.nodes ≤ value.bytes.length := by
  induction value using nestedInduction with
  | step value inductionHypothesis =>
      have filled := value.length_bytes_pos
      cases value with
      | array items =>
          have inside :
              depthOfItems items ≤ nodesOfItems items ∧
                nodesOfItems items ≤ (items.map fun item => item.bytes.length).sum :=
            sizeOfItems_le inductionHypothesis
          simp only [depth, nodes, bytes, bytesOfItems_eq, List.length_cons, List.length_append,
            List.length_flatMap]
          omega
      | annotated index elements =>
          have inside :
              depthOfElements elements ≤ nodesOfElements elements ∧
                nodesOfElements elements ≤
                  (elements.map fun element =>
                    (Leb128.unsigned element.1).length + element.2.bytes.length).sum :=
            sizeOfElements_le inductionHypothesis
          simp only [depth, nodes, bytes, bytesOfElements_eq, List.length_cons,
            List.length_append, List.length_flatMap]
          omega
      | _ =>
          exact ⟨Nat.le_refl 1, filled⟩

end Value

/-! ## What the readers take -/

/-- A reader went forward, but not over the end of the data, and gave no more values than it took
bytes, which nest no deeper than there are of them. -/
structure Progress (data : Bytes) (position stop nodes depth : Nat) : Prop where
  forward : position < stop
  inside : stop ≤ data.size
  few : nodes ≤ stop - position
  shallow : depth ≤ nodes

theorem progress_readValue
    {data : Bytes}
    {position stop : Nat}
    {value : Value}
    (read : readValue data position = .ok (value, stop)) :
    Progress data position stop value.nodes value.depth := by
  have taken := Value.takes_readValue data read
  have size := value.size_le
  have filled := value.length_bytes_pos
  dsimp only at taken
  exact ⟨by omega, by omega, by omega, size.1⟩

theorem progress_readValues
    {data : Bytes}
    {position stop : Nat}
    {items : List Value}
    (read : readValues data position = .ok (items, stop)) :
    Progress data position stop (Value.nodesOfItems items) (Value.depthOfItems items) := by
  obtain ⟨count, first, counted, readsItems⟩ := Cursor.bind_eq_ok_iff.mp read
  have front := Cursor.Takes.unsigned counted
  have behind := (Value.takes_readValue data).times _ readsItems
  have size := Value.sizeOfItems_le fun item (_ : item ∈ items) => item.size_le
  have filled := Leb128.length_unsigned_pos count
  dsimp only at front behind
  exact ⟨by omega, by omega, by omega, size.1⟩

theorem progress_readAnnotated
    {data : Bytes}
    {position stop : Nat}
    {type : UInt32}
    {elements : List (UInt32 × Value)}
    (read : readAnnotated data position = .ok ((type, elements), stop)) :
    Progress data position stop (Value.nodesOfElements elements)
      (Value.depthOfElements elements) := by
  obtain ⟨index, first, typed, read⟩ := Cursor.bind_eq_ok_iff.mp read
  obtain ⟨count, second, counted, read⟩ := Cursor.bind_eq_ok_iff.mp read
  obtain ⟨named, last, readsElements, read⟩ := Cursor.bind_eq_ok_iff.mp read
  obtain ⟨same, rfl⟩ := Cursor.pure_eq_ok_iff.mp read
  cases same
  have front := Cursor.Takes.unsigned typed
  have between := Cursor.Takes.unsigned counted
  have behind := (Value.takes_readValue data).named.times _ readsElements
  have size := Value.sizeOfElements_le fun part (_ : part ∈ elements.map (·.2)) => part.size_le
  have filled := Leb128.length_unsigned_pos type
  dsimp only at front between behind
  exact ⟨by omega, by omega, by omega, size.1⟩

/-! ## Readers that agree from a position on -/

namespace Cursor

variable {α β : Type}

/-- Chains agree if they begin alike and go on alike with whatever is read first. -/
theorem bind_congr
    {first : Cursor α}
    {next other : α → Cursor β}
    {position : Nat}
    (agrees : ∀ x middle, first position = .ok (x, middle) → next x middle = other x middle) :
    (first >>= next) position = (first >>= other) position := by
  cases read : first position with
  | error error =>
      simp [bind, StateT.bind, Except.bind, read]
  | ok result =>
      obtain ⟨x, middle⟩ := result
      rw [bind_of_ok read, bind_of_ok read, agrees x middle read]

/-- From the position on, the two cursors give the same, and do not go back. -/
structure AgreesFrom (position : Nat) (first second : Cursor α) : Prop where
  same : ∀ ⦃later⦄, position ≤ later → first later = second later
  forward : ∀ ⦃later stop x⦄, first later = .ok (x, stop) → later ≤ stop

namespace AgreesFrom

/-- Cursors that agree from a position on agree from any later one on. -/
theorem later
    {position behind : Nat}
    {first second : Cursor α}
    (agrees : AgreesFrom position first second)
    (order : position ≤ behind) :
    AgreesFrom behind first second :=
  ⟨fun _ after => agrees.same (Nat.le_trans order after), agrees.forward⟩

/-- Repeated cursors agree if the cursors do. -/
theorem times
    {position : Nat}
    {first second : Cursor α}
    (agrees : AgreesFrom position first second)
    (count : Nat) :
    Cursor.times count first position = Cursor.times count second position := by
  suffices each :
      ∀ (given : List α) (later : Nat), position ≤ later →
        timesFrom first count given later = timesFrom second count given later from
    each [] position (Nat.le_refl position)
  induction count with
  | zero =>
      intro given later _
      rfl
  | succ count inductionHypothesis =>
      intro given later order
      cases read : first later with
      | error error =>
          simp only [timesFrom, ← agrees.same order, read]
      | ok item =>
          obtain ⟨x, next⟩ := item
          have forward := agrees.forward read
          rw [timesFrom_of_ok read, timesFrom_of_ok (agrees.same order ▸ read)]
          exact inductionHypothesis (x :: given) next (by omega)

/-- Cursors for named values agree if those for the values do. -/
theorem named
    {position : Nat}
    {first second : Cursor α}
    (agrees : AgreesFrom position first second)
    (data : Bytes) :
    AgreesFrom position
      (do
        let name ← Cursor.unsigned data
        return (name, ← first))
      (do
        let name ← Cursor.unsigned data
        return (name, ← second)) := by
  refine ⟨fun later order => bind_congr fun name middle named => ?_,
    fun later stop element read => ?_⟩
  · have front := Takes.unsigned named
    simp only [bind, StateT.bind, agrees.same (show position ≤ middle by omega)]
  · obtain ⟨name, middle, named, read⟩ := bind_eq_ok_iff.mp read
    obtain ⟨x, last, reads, read⟩ := bind_eq_ok_iff.mp read
    obtain ⟨-, rfl⟩ := pure_eq_ok_iff.mp read
    have front := Takes.unsigned named
    have behind := agrees.forward reads
    omega

end AgreesFrom

end Cursor

/-! ## Readers that call each other -/

/-- Reads a value, given the reader of the values inside it. -/
def valueAround (data : Bytes) (inner : Cursor Value) : Cursor Value := do
  let start ← get
  let header ← Cursor.byte data
  valueFrom data inner start (header.toNat % 32) (header.toNat / 32 + 1)

/-- What follows the first byte of a value is read alike by readers that agree from there on. -/
theorem valueFrom_congr
    {data : Bytes}
    {position : Nat}
    {first second : Cursor Value}
    (agrees : Cursor.AgreesFrom position first second)
    (start type width : Nat) :
    valueFrom data first start type width position =
      valueFrom data second start type width position := by
  unfold valueFrom
  split
  · refine Cursor.bind_congr fun count middle counted => ?_
    have front := Cursor.Takes.unsigned counted
    have behind := agrees.later (show position ≤ middle by omega)
    simp only [bind, StateT.bind, behind.times]
  · split
    · refine Cursor.bind_congr fun index middle typed => ?_
      refine Cursor.bind_congr fun count last counted => ?_
      have front := Cursor.Takes.unsigned typed
      have between := Cursor.Takes.unsigned counted
      have behind := (agrees.later (show position ≤ last by omega)).named data
      simp only [bind, StateT.bind] at behind ⊢
      rw [behind.times]
    · rfl

/-- A value is read alike by readers that agree from behind its first byte on. -/
theorem valueAround_congr
    {data : Bytes}
    {position : Nat}
    {first second : Cursor Value}
    (agrees : position < data.size → Cursor.AgreesFrom (position + 1) first second) :
    valueAround data first position = valueAround data second position := by
  refine Cursor.bind_congr fun start same isStart => ?_
  cases isStart
  refine Cursor.bind_congr fun header middle readsHeader => ?_
  obtain ⟨inside, rfl⟩ := Cursor.lt_size_of_byte readsHeader
  exact valueFrom_congr (agrees inside) _ _ _

/-- A bound on the depth that is no smaller than the count of the bytes that are left is never what
ends a reader: it gives what readers give that call each other often enough to come to the end of
these bytes, whatever the last one of them would call. -/
theorem valueWithin_eq_iterate
    {data : Bytes}
    {depth calls position : Nat}
    (last : Cursor Value)
    (deep : data.size - position ≤ depth)
    (enough : data.size - position < calls) :
    valueWithin data depth position = (valueAround data)^[calls] last position := by
  induction depth generalizing calls position with
  | zero =>
      obtain ⟨calls, rfl⟩ := Nat.exists_eq_add_one_of_ne_zero (Nat.ne_zero_of_lt enough)
      have outside : data[position]? = none := Array.getElem?_eq_none (by omega)
      rw [Function.iterate_succ_apply']
      simp [valueAround, valueWithin, Cursor.byte, u8At, outside, bind, StateT.bind, Except.bind,
        get, getThe, MonadStateOf.get, StateT.get, pure, Except.pure]
  | succ depth inductionHypothesis =>
      obtain ⟨calls, rfl⟩ := Nat.exists_eq_add_one_of_ne_zero (Nat.ne_zero_of_lt enough)
      rw [Function.iterate_succ_apply']
      refine valueAround_congr fun inside => ⟨fun later behind => ?_, ?_⟩
      · exact inductionHypothesis (by omega) (by omega)
      · intro later stop value read
        have taken := Value.takes_valueWithin data depth read
        omega

/-- Readers that call each other once for each byte of the data, and once more, read a value. -/
theorem iterate_valueAround
    {data : Bytes}
    {calls : Nat}
    (last : Cursor Value)
    (enough : data.size < calls) :
    (valueAround data)^[calls] last = readValue data := by
  funext position
  exact (valueWithin_eq_iterate last (Nat.le_refl _) (by omega)).symm

/-- The reader of values calls itself without a bound. -/
theorem valueAround_readValue (data : Bytes) :
    valueAround data (readValue data) = readValue data := by
  have once := iterate_valueAround (readValue data) (show data.size < data.size + 1 by omega)
  have more := iterate_valueAround (readValue data) (show data.size < data.size + 1 + 1 by omega)
  rwa [Function.iterate_succ_apply', once] at more

/-- Whoever reads a value, a list of values or an annotation goes forward, but not over the end of
the data, and gives no more values than it takes bytes.  The readers that call each other come to an
end: behind as many calls as there are bytes left, no further one makes a difference, whatever
counts stand in the data. -/
theorem readers_progress_and_end (data : Bytes) :
    (∀ position value stop,
        readValue data position = .ok (value, stop) →
          Progress data position stop value.nodes value.depth) ∧
      (∀ position items stop,
        readValues data position = .ok (items, stop) →
          Progress data position stop (Value.nodesOfItems items) (Value.depthOfItems items)) ∧
      (∀ position type elements stop,
        readAnnotated data position = .ok ((type, elements), stop) →
          Progress data position stop (Value.nodesOfElements elements)
            (Value.depthOfElements elements)) ∧
      valueAround data (readValue data) = readValue data ∧
      ∀ (last : Cursor Value) (calls position : Nat),
        data.size - position < calls →
          (valueAround data)^[calls] last position = readValue data position :=
  ⟨fun _ _ _ => progress_readValue, fun _ _ _ => progress_readValues,
    fun _ _ _ _ => progress_readAnnotated, valueAround_readValue data,
    fun last _ _ enough => (valueWithin_eq_iterate last (Nat.le_refl _) enough).symm⟩

/-- A list of the null value and an annotation that names an empty list: four values, three deep, in
nine bytes.  Behind them, a list with more elements than there are bytes. -/
theorem readers_progress_and_end_nested :
    let data : Bytes := #[0x1c, 2, 0x1e, 0x1d, 0, 1, 1, 0x1c, 0, 0x1c, 3]
    let annotated := Value.annotated 0 [(1, .array [])]
    readValue data 0 = .ok (.array [.null, annotated], 9) ∧
      Progress data 0 9 4 3 ∧
      readValues data 1 = .ok ([.null, annotated], 9) ∧
      Progress data 1 9 3 2 ∧
      readAnnotated data 4 = .ok ((0, [(1, .array [])]), 9) ∧
      Progress data 4 9 1 1 ∧
      data.size - 9 < 3 ∧
      (valueAround data)^[3] (fun _ => .ok (.null, 0)) 9 = readValue data 9 ∧
      readValue data 9 = .error (.unexpectedEnd 12) := by
  intro data annotated
  obtain ⟨ofValue, ofValues, ofAnnotated, -, ends⟩ := readers_progress_and_end data
  have readsValue : readValue data 0 = .ok (.array [.null, annotated], 9) := by rfl
  have readsValues : readValues data 1 = .ok ([.null, annotated], 9) := by rfl
  have readsAnnotated : readAnnotated data 4 = .ok ((0, [(1, .array [])]), 9) := by rfl
  have few : data.size - 9 < 3 := by decide
  exact ⟨readsValue, ofValue _ _ _ readsValue, readsValues, ofValues _ _ _ readsValues,
    readsAnnotated, ofAnnotated _ _ _ _ readsAnnotated, few, ends _ _ _ few, by rfl⟩

end DexPatch
