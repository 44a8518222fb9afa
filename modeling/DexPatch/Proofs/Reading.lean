import Mathlib
import DexPatch.Chain
import DexPatch.Proofs.Leb128

namespace DexPatch

/-!
# Readers that find what was written

A reader is a chain of smaller ones, and the chain succeeds exactly if each
link does.  `Cursor.Reads` says of a cursor that it takes a piece wherever
data holds it, and leaves off behind it; the laws for chains and repetitions
carry this from the parts of a piece to the whole.
-/

/-! ## Readers of many items -/

/-- Reading behind collected items gives these and then one result per index. -/
theorem collectFrom_eq_ok_iff
    {α : Type}
    {item : Nat → Except DecodeError α}
    {remaining index : Nat}
    {collected result : List α} :
    collectFrom item remaining index collected = .ok result ↔
      ∃ list,
        result = collected.reverse ++ list ∧
          list.length = remaining ∧
          ∀ (i : Nat) (inside : i < list.length), item (index + i) = .ok list[i] := by
  induction remaining generalizing index collected with
  | zero =>
      constructor
      · intro done
        refine ⟨[], ?_, rfl, by simp⟩
        simpa [collectFrom] using done.symm
      · rintro ⟨list, rfl, empty, -⟩
        simp [collectFrom, List.eq_nil_of_length_eq_zero empty]
  | succ remaining inductionHypothesis =>
      rw [collectFrom]
      cases head : item index with
      | error error =>
          simp only [reduceCtorEq, false_iff]
          rintro ⟨list, -, length, items⟩
          have first := items 0 (by omega)
          rw [Nat.add_zero, head] at first
          exact absurd first (by simp)
      | ok x =>
          simp only
          rw [inductionHypothesis]
          constructor
          · rintro ⟨list, rfl, length, items⟩
            refine ⟨x :: list, by simp, by simp [length], ?_⟩
            intro i inside
            cases i with
            | zero =>
                simpa using head
            | succ i =>
                have later := items i (by simpa using inside)
                simpa [Nat.add_assoc, Nat.add_comm 1] using later
          · rintro ⟨list, rfl, length, items⟩
            obtain ⟨first, rest, rfl⟩ :=
              List.exists_cons_of_length_pos (l := list) (by omega)
            have same := items 0 (by simp)
            rw [Nat.add_zero, head] at same
            simp only [List.getElem_cons_zero, Except.ok.injEq] at same
            subst same
            refine ⟨rest, by simp, by simpa using length, ?_⟩
            intro i inside
            have later := items (i + 1) (by simpa using inside)
            simpa [Nat.add_assoc, Nat.add_comm 1] using later

/-- Collecting succeeds exactly with one result per index. -/
theorem collect_eq_ok_iff
    {α : Type}
    {count : Nat}
    {item : Nat → Except DecodeError α}
    {result : List α} :
    collect count item = .ok result ↔
      result.length = count ∧
        ∀ (i : Nat) (inside : i < result.length), item i = .ok result[i] := by
  rw [collect, collectFrom_eq_ok_iff]
  constructor
  · rintro ⟨list, rfl, length, items⟩
    simpa using ⟨length, by simpa using items⟩
  · rintro ⟨length, items⟩
    exact ⟨result, by simp, length, by simpa using items⟩

/-- Every collected item was read at some index. -/
theorem exists_of_mem_collect
    {α : Type}
    {count : Nat}
    {item : Nat → Except DecodeError α}
    {result : List α}
    (collected : collect count item = .ok result)
    {x : α}
    (member : x ∈ result) :
    ∃ i, i < count ∧ item i = .ok x := by
  obtain ⟨length, items⟩ := collect_eq_ok_iff.mp collected
  obtain ⟨i, inside, rfl⟩ := List.getElem_of_mem member
  exact ⟨i, by omega, items i inside⟩

namespace Cursor

variable {α β : Type}

/-- A chain of two cursors succeeds exactly if both do, the second where the first left off. -/
theorem bind_eq_ok_iff
    {first : Cursor α}
    {next : α → Cursor β}
    {position stop : Nat}
    {y : β} :
    (first >>= next) position = .ok (y, stop) ↔
      ∃ x middle,
        first position = .ok (x, middle) ∧ next x middle = .ok (y, stop) := by
  cases read : first position with
  | error error =>
      simp [bind, StateT.bind, Except.bind, read]
  | ok result =>
      obtain ⟨x, middle⟩ := result
      constructor
      · intro succeeds
        refine ⟨x, middle, rfl, ?_⟩
        simpa [bind, StateT.bind, Except.bind, read] using succeeds
      · rintro ⟨x', middle', same, succeeds⟩
        simp only [Except.ok.injEq, Prod.mk.injEq] at same
        obtain ⟨rfl, rfl⟩ := same
        simpa [bind, StateT.bind, Except.bind, read] using succeeds

/-- The first cursor of a chain passes its result and its position on. -/
theorem bind_of_ok
    {first : Cursor α}
    {next : α → Cursor β}
    {position middle : Nat}
    {x : α}
    (read : first position = .ok (x, middle)) :
    (first >>= next) position = next x middle := by
  simp [bind, StateT.bind, Except.bind, read]

@[simp] theorem pure_eq_ok_iff
    {x y : α}
    {position stop : Nat} :
    (pure x : Cursor α) position = .ok (y, stop) ↔ x = y ∧ position = stop := by
  simp [pure, StateT.pure, Except.pure]

/-- A check of what was read leaves the position as it is. -/
theorem lift_eq_ok_iff
    {check : Except DecodeError α}
    {x : α}
    {position stop : Nat} :
    (liftM check : Cursor α) position = .ok (x, stop) ↔ check = .ok x ∧ position = stop := by
  cases check with
  | error error =>
      simp [liftM, monadLift, MonadLift.monadLift, StateT.lift, bind, Except.bind]
  | ok y =>
      simp [liftM, monadLift, MonadLift.monadLift, StateT.lift, bind, Except.bind, pure,
        Except.pure]

/-- What a cursor reads at an offset, it reads from there. -/
theorem readAt_eq_ok_iff
    {cursor : Cursor α}
    {offset : Nat}
    {x : α} :
    cursor.readAt offset = .ok x ↔ ∃ stop, cursor offset = .ok (x, stop) := by
  unfold readAt
  cases read : cursor offset with
  | error error =>
      simp
  | ok result =>
      obtain ⟨y, stop⟩ := result
      simp

theorem readAt_of_ok
    {cursor : Cursor α}
    {offset stop : Nat}
    {x : α}
    (read : cursor offset = .ok (x, stop)) :
    cursor.readAt offset = .ok x :=
  readAt_eq_ok_iff.mpr ⟨stop, read⟩

/-- What a chain reads, its rest reads where the first cursor left off. -/
theorem readAt_bind_of_ok
    {first : Cursor α}
    {next : α → Cursor β}
    {position middle : Nat}
    {x : α}
    (read : first position = .ok (x, middle)) :
    (first >>= next).readAt position = (next x).readAt middle := by
  simp only [readAt, bind_of_ok read]

/-- What the reader gives first is put behind what it gave before. -/
theorem timesFrom_of_ok
    {reader : Cursor α}
    {position next remaining : Nat}
    {given : List α}
    {x : α}
    (read : reader position = .ok (x, next)) :
    timesFrom reader (remaining + 1) given position =
      timesFrom reader remaining (x :: given) next := by
  simp [timesFrom, read]

/-- The reader takes the piece for the value wherever data holds it, and leaves off behind it. -/
def Reads
    (reader : Bytes → Cursor α)
    (piece : List UInt8)
    (x : α) : Prop :=
  ∀ ⦃data : Bytes⦄ ⦃position : Nat⦄,
    Holds data position piece →
      reader data position = .ok (x, position + piece.length)

namespace Reads

/-- A value that takes no bytes is read everywhere. -/
theorem done (x : α) : Reads (fun _ => pure x) [] x := by
  intro data position _
  rfl

/-- Two pieces one behind the other are read by the chain of their readers. -/
theorem andThen
    {first : Bytes → Cursor α}
    {next : α → Bytes → Cursor β}
    {firstPiece secondPiece : List UInt8}
    {x : α}
    {y : β}
    (readsFirst : Reads first firstPiece x)
    (readsSecond : Reads (next x) secondPiece y) :
    Reads (fun data => first data >>= fun x => next x data) (firstPiece ++ secondPiece) y := by
  intro data position held
  show (first data >>= fun x => next x data) position = _
  rw [bind_of_ok (readsFirst held.left), readsSecond held.right, List.length_append,
    Nat.add_assoc]

/-- A reader whose result is changed takes the same piece. -/
theorem map
    {reader : Bytes → Cursor α}
    {piece : List UInt8}
    {x : α}
    (reads : Reads reader piece x)
    (change : α → β) :
    Reads (fun data => reader data >>= fun x => pure (change x)) piece (change x) := by
  intro data position held
  show (reader data >>= fun x => pure (change x)) position = _
  rw [bind_of_ok (reads held)]
  rfl

theorem byte (b : UInt8) : Reads Cursor.byte [b] b := by
  intro data position held
  simp [Cursor.byte, u8At_of_holds held]

theorem number (digits : List UInt8) :
    Reads (fun data => Cursor.number data digits.length) digits (ofLittleEndian digits) := by
  intro data position held
  simp [Cursor.number, numberAt_of_holds_digits held]

theorem unsigned (value : UInt32) : Reads Cursor.unsigned (Leb128.unsigned value) value :=
  fun _ _ held => Leb128.readUnsigned_of_holds held

theorem signed (value : Int32) : Reads Cursor.signed (Leb128.signed value) value :=
  fun _ _ held => Leb128.readSigned_of_holds held

theorem optional {value : Option UInt32} (notGreatest : value ≠ some 0xffffffff) :
    Reads Cursor.optional (Leb128.optional value) value :=
  fun _ _ held => Leb128.readOptional_of_holds notGreatest held

/-- Pieces one behind the other are read by repeating the reader behind what it gave before. -/
theorem timesFrom
    {reader : Bytes → Cursor α}
    {bytes : α → List UInt8}
    {list : List α}
    (each : ∀ x ∈ list, Reads reader (bytes x) x)
    (given : List α) :
    Reads (fun data => Cursor.timesFrom (reader data) list.length given)
      (list.flatMap bytes) (given.reverse ++ list) := by
  induction list generalizing given with
  | nil =>
      intro data position _
      simp [Cursor.timesFrom]
  | cons x rest inductionHypothesis =>
      intro data position held
      rw [List.flatMap_cons] at held
      have readsHead := each x (by simp) held.left
      have readsRest :=
        inductionHypothesis
          (fun y member => each y (by simp [member])) (x :: given) held.right
      show Cursor.timesFrom (reader data) (rest.length + 1) given position = _
      rw [timesFrom_of_ok readsHead]
      simpa [Nat.add_assoc] using readsRest

/-- Pieces one behind the other are read by repeating the reader. -/
theorem times
    {reader : Bytes → Cursor α}
    {bytes : α → List UInt8}
    {list : List α}
    (each : ∀ x ∈ list, Reads reader (bytes x) x) :
    Reads (fun data => Cursor.times list.length (reader data)) (list.flatMap bytes) list :=
  timesFrom each []

/-- Pieces with a count in front are read if the count fits 32 bits. -/
theorem counted
    {reader : Bytes → Cursor α}
    {bytes : α → List UInt8}
    {list : List α}
    (each : ∀ x ∈ list, Reads reader (bytes x) x)
    (fits : list.length < 4294967296) :
    Reads
      (fun data => Cursor.unsigned data >>= fun count =>
        Cursor.times count.toNat (reader data))
      (Leb128.unsigned (UInt32.ofNat list.length) ++ list.flatMap bytes) list := by
  refine andThen
    (unsigned (UInt32.ofNat list.length)) ?_
  have count : (UInt32.ofNat list.length).toNat = list.length := by
    simp [Nat.mod_eq_of_lt fits]
  rw [count]
  exact times each

/-- What follows pieces with a count in front is read behind them. -/
theorem countedThen
    {reader : Bytes → Cursor α}
    (next : List α → Bytes → Cursor β)
    {bytes : α → List UInt8}
    {list : List α}
    {rest : List UInt8}
    {y : β}
    (each : ∀ x ∈ list, Reads reader (bytes x) x)
    (fits : list.length < 4294967296)
    (readsRest : Reads (next list) rest y) :
    Reads
      (fun data => Cursor.unsigned data >>= fun count =>
        Cursor.times count.toNat (reader data) >>= fun list => next list data)
      (Leb128.unsigned (UInt32.ofNat list.length) ++ (list.flatMap bytes ++ rest)) y := by
  refine andThen
    (unsigned (UInt32.ofNat list.length)) ?_
  have count : (UInt32.ofNat list.length).toNat = list.length := by
    simp [Nat.mod_eq_of_lt fits]
  rw [count]
  exact andThen (times each) readsRest

end Reads

/-- A repeated reader gives as many values as it is told to, and each at some position. -/
theorem exists_of_timesFrom
    {reader : Cursor α}
    {remaining position stop : Nat}
    {given result : List α}
    (read : timesFrom reader remaining given position = .ok (result, stop)) :
    ∃ list,
      result = given.reverse ++ list ∧
        list.length = remaining ∧
        ∀ x ∈ list, ∃ start next, reader start = .ok (x, next) := by
  induction remaining generalizing given position with
  | zero =>
      simp only [timesFrom, Except.ok.injEq, Prod.mk.injEq] at read
      exact ⟨[], by simp [read.1], rfl, by simp⟩
  | succ remaining inductionHypothesis =>
      rw [timesFrom] at read
      cases head : reader position with
      | error error =>
          simp [head] at read
      | ok item =>
          obtain ⟨x, next⟩ := item
          simp only [head] at read
          obtain ⟨list, rfl, length, items⟩ := inductionHypothesis read
          refine ⟨x :: list, by simp, by simp [length], ?_⟩
          intro y member
          rcases List.mem_cons.mp member with rfl | later
          · exact ⟨position, next, head⟩
          · exact items y later

/-- A repeated reader gives the count of values, and each at some position. -/
theorem exists_of_times
    {reader : Cursor α}
    {count position stop : Nat}
    {result : List α}
    (read : times count reader position = .ok (result, stop)) :
    result.length = count ∧
      ∀ x ∈ result, ∃ start next, reader start = .ok (x, next) := by
  obtain ⟨list, rfl, length, items⟩ := exists_of_timesFrom read
  exact ⟨length, items⟩

end Cursor

end DexPatch
