import DexPatch.Proofs.Ascending

namespace DexPatch

/-!
# What sorting keeps

Sorting is stable: of two entries of a pool whose keys are in order, the one
that stands first stays first.  So where a pool in canonical order grows, its
old entries keep their order, and the first entry of some meaning stays the
first one.
-/

namespace Numbering

/-- Two elements of a list, one behind the other. -/
theorem pair_sublist_of_getElem?
    {α : Type}
    {list : List α}
    {i j : Nat}
    (before : i < j)
    {x y : α}
    (isFirst : list[i]? = some x)
    (isSecond : list[j]? = some y) :
    [x, y].Sublist list := by
  have inFront : x ∈ list.take j := List.mem_of_getElem? (by rwa [List.getElem?_take_of_lt before])
  have head : (list.drop j)[0]? = some y := by rwa [List.getElem?_drop, Nat.add_zero]
  have behind : y ∈ list.drop j := List.mem_of_getElem? head
  have both := (List.singleton_sublist.mpr inFront).append (List.singleton_sublist.mpr behind)
  rwa [List.take_append_drop] at both

/-- Numbers stand in the new order by their ranks. -/
theorem Covers.pairwise_order
    {numbering : Numbering}
    {count : Nat}
    (covers : numbering.Covers count)
    (few : count ≤ 4294967296) :
    numbering.order.Pairwise fun first second =>
      (numbering.rank (UInt32.ofNat first)).toNat <
        (numbering.rank (UInt32.ofNat second)).toNat := by
  have rank_getElem (new : Nat) (inside : new < numbering.order.length) :
      (numbering.rank (UInt32.ofNat numbering.order[new])).toNat = new := by
    have old := covers.inside_of_mem_order (List.getElem_mem inside)
    have found := covers.inverse new _ (List.getElem?_eq_getElem inside)
    rw [covers.length_order] at inside
    have oldFits : numbering.order[new] < 4294967296 := Nat.lt_of_lt_of_le old few
    have newFits : new < 4294967296 := Nat.lt_of_lt_of_le inside few
    rw [rank, UInt32.toNat_ofNat_of_lt' oldFits, found, Option.getD_some,
      UInt32.toNat_ofNat_of_lt' newFits]
  refine List.pairwise_iff_getElem.mpr fun i j isInside jInside before => ?_
  rwa [rank_getElem, rank_getElem]

/-- Entries whose keys are in order keep their order. -/
theorem rank_lt_rank
    {α : Type}
    {entries : Array α}
    (few : entries.size ≤ 4294967296)
    {key : α → SortKey}
    {first second : UInt32}
    (before : first.toNat < second.toNat)
    {x y : α}
    (isFirst : entries[first.toNat]? = some x)
    (isSecond : entries[second.toNat]? = some y)
    (inOrder : key x ≤ key y) :
    ((ofKeys (entries.toList.map key)).rank first).toNat <
      ((ofKeys (entries.toList.map key)).rank second).toNat := by
  have pair :
      [(key x, first.toNat), (key y, second.toNat)].Sublist
        (entries.toList.map key).zipIdx :=
    pair_sublist_of_getElem? before (by simp [isFirst]) (by simp [isSecond])
  have sorted :
      [(key x, first.toNat), (key y, second.toNat)].Sublist
        ((entries.toList.map key).zipIdx.mergeSort fun first second =>
          notBehind first.1 second.1) :=
    List.pair_sublist_mergeSort
      (fun first second third => notBehind_trans first.1 second.1 third.1)
      (fun first second => notBehind_total first.1 second.1) (notBehind_iff_le.mpr inOrder) pair
  have ordered :
      [first.toNat, second.toNat].Sublist (ofKeys (entries.toList.map key)).order :=
    sorted.map Prod.snd
  have ranks := List.pairwise_iff_forall_sublist.mp
    ((covers_ofKeys_map entries key).pairwise_order few) ordered
  simpa using ranks

/-- The first entry that fulfils a condition stays the first one, if all that fulfil it have one
key. -/
theorem findIdx?_arrange_map
    {α β : Type}
    {entries : Array α}
    (few : entries.size ≤ 4294967296)
    (key : α → SortKey)
    (change : α → β)
    {holds : α → Bool}
    (holdsThen : β → Bool)
    (same : ∀ entry, holdsThen (change entry) = holds entry)
    (oneKey : ∀ x y, holds x = true → holds y = true → key x = key y)
    {index : UInt32}
    (found : (entries.findIdx? holds).map UInt32.ofNat = some index) :
    ((((ofKeys (entries.toList.map key)).arrange (entries.map change)).findIdx? holdsThen).map
        UInt32.ofNat) =
      some ((ofKeys (entries.toList.map key)).rank index) := by
  let numbering := ofKeys (entries.toList.map key)
  have covers : numbering.Covers entries.size := covers_ofKeys_map entries key
  obtain ⟨i, isFirst, rfl⟩ := Option.map_eq_some_iff.mp found
  obtain ⟨inside, here, notBefore⟩ := Array.findIdx?_eq_some_iff_getElem.mp isFirst
  have fits : i < 4294967296 := Nat.lt_of_lt_of_le inside few
  have number : (UInt32.ofNat i).toNat = i := UInt32.toNat_ofNat_of_lt' fits
  have isHere : entries[(UInt32.ofNat i).toNat]? = some entries[i] := by
    rw [number, Array.getElem?_eq_getElem inside]
  have bound : (numbering.rank (UInt32.ofNat i)).toNat < entries.size :=
    covers.rank_lt (by rwa [number])
  have isFirstThen :
      (numbering.arrange (entries.map change)).findIdx? holdsThen =
        some (numbering.rank (UInt32.ofNat i)).toNat := by
    have movedBound : (numbering.rank (UInt32.ofNat i)).toNat <
        (numbering.arrange (entries.map change)).size := by
      rwa [covers.size_arrange_map]
    have moved := covers.getElem?_arrange_map_rank few change (UInt32.ofNat i)
    rw [isHere, Option.map_some, Array.getElem?_eq_getElem movedBound] at moved
    refine Array.findIdx?_eq_some_iff_getElem.mpr ⟨movedBound, ?_, fun j before holds => ?_⟩
    · rw [Option.some.inj moved, same, here]
    · -- What stands before the first one's rank was not behind it, so it was not there at all.
      have jInside : j < entries.size := Nat.lt_trans before bound
      have jNumber : (UInt32.ofNat j).toNat = j :=
        UInt32.toNat_ofNat_of_lt' (Nat.lt_of_lt_of_le jInside few)
      obtain ⟨old, isOld⟩ := covers.rank_surjective few (UInt32.ofNat j)
      have oldInside : old.toNat < entries.size := by
        rw [← covers.rank_lt_iff, isOld, jNumber]
        exact jInside
      have oldMoved := covers.getElem?_arrange_map_rank few change old
      rw [isOld, jNumber, Array.getElem?_eq_getElem (Nat.lt_trans before movedBound),
        Array.getElem?_eq_getElem oldInside, Option.map_some] at oldMoved
      rw [Option.some.inj oldMoved, same] at holds
      have notSmaller : i ≤ old.toNat := Nat.le_of_not_lt fun smaller => notBefore _ smaller holds
      rcases Nat.eq_or_lt_of_le notSmaller with rfl | behind
      · rw [UInt32.ofNat_toNat, isOld, jNumber] at before
        exact Nat.lt_irrefl j before
      · have ordered : (numbering.rank (UInt32.ofNat i)).toNat < (numbering.rank old).toNat :=
          rank_lt_rank few (number.symm ▸ behind) isHere (Array.getElem?_eq_getElem oldInside)
            (oneKey _ _ here holds).le
        rw [isOld, jNumber] at ordered
        exact Nat.lt_asymm before ordered
  rw [isFirstThen, Option.map_some, UInt32.ofNat_toNat]

end Numbering

/-! ## Numbers that keep their order -/

/-- The map keeps the order of the numbers below a bound. -/
def KeepsOrder (count : Nat) (renumber : UInt32 → UInt32) : Prop :=
  ∀ first second : UInt32,
    second.toNat < count → first.toNat < second.toNat →
      (renumber first).toNat < (renumber second).toNat

/-- Keys stay in order if their first parts do, and their other parts do where the first are
equal. -/
theorem cons_le_cons_of
    {x y newX newY : Nat}
    {xs ys newXs newYs : SortKey}
    (less : x < y → newX < newY)
    (equal : x = y → newX = newY)
    (rest : xs ≤ ys → newXs ≤ newYs)
    (inOrder : x :: xs ≤ y :: ys) :
    newX :: newXs ≤ newY :: newYs := by
  rw [← notBehind_iff_le] at inOrder rest ⊢
  simp only [notBehind, Bool.or_eq_true, decide_eq_true_eq, Bool.and_eq_true, beq_iff_eq]
    at inOrder ⊢
  rcases inOrder with smaller | ⟨same, others⟩
  · exact .inl (less smaller)
  · exact .inr ⟨equal same, notBehind_iff_le.mpr (rest others)⟩

namespace KeepsOrder

variable {count : Nat} {renumber : UInt32 → UInt32} (keeps : KeepsOrder count renumber)

include keeps

/-- Keys that start with numbers below the bound stay in order. -/
theorem cons_le_cons
    {first second : UInt32}
    (inside : second.toNat < count)
    {xs ys newXs newYs : SortKey}
    (rest : xs ≤ ys → newXs ≤ newYs)
    (inOrder : first.toNat :: xs ≤ second.toNat :: ys) :
    (renumber first).toNat :: newXs ≤ (renumber second).toNat :: newYs :=
  cons_le_cons_of (keeps first second inside)
    (fun same => by rw [UInt32.toNat_inj.mp same]) rest inOrder

/-- Keys of numbers below the bound stay in order. -/
theorem map_le_map
    {firsts seconds : List UInt32}
    (inside : ∀ second ∈ seconds, second.toNat < count)
    (inOrder : firsts.map (·.toNat) ≤ seconds.map (·.toNat)) :
    firsts.map (fun index => (renumber index).toNat) ≤
      seconds.map (fun index => (renumber index).toNat) := by
  induction firsts generalizing seconds with
  | nil =>
      exact notBehind_iff_le.mp rfl
  | cons first firsts inductionHypothesis =>
      cases seconds with
      | nil =>
          exact absurd (notBehind_iff_le.mpr inOrder) nofun
      | cons second seconds =>
          exact keeps.cons_le_cons (inside second List.mem_cons_self)
            (inductionHypothesis fun other member => inside other (List.mem_cons_of_mem _ member))
            inOrder

theorem monotone
    {first second : UInt32}
    (inside : second.toNat < count)
    (inOrder : first ≤ second) :
    renumber first ≤ renumber second := by
  rcases Nat.eq_or_lt_of_le (UInt32.le_iff_toNat_le.mp inOrder) with same | less
  · rw [UInt32.toNat_inj.mp same]
    exact UInt32.le_refl _
  · exact UInt32.le_iff_toNat_le.mpr (Nat.le_of_lt (keeps first second inside less))

end KeepsOrder

namespace Numbering

/-- The entries that a pool had before it grew keep their order if they stood in the order of their
keys, and the keys that they have now are in that order, too. -/
theorem keepsOrder_rank
    {α : Type}
    {old entries : Array α}
    (grown : old.toList <+: entries.toList)
    (few : entries.size ≤ 4294967296)
    {oldKey key : α → SortKey}
    (sorted : (old.toList.map oldKey).Pairwise (· ≤ ·))
    (carried : ∀ x ∈ old, ∀ y ∈ old, oldKey x ≤ oldKey y → key x ≤ key y) :
    KeepsOrder old.size (ofKeys (entries.toList.map key)).rank := by
  intro first second inside before
  have firstInside := Nat.lt_trans before inside
  have inOrder :=
    List.pairwise_iff_getElem.mp (List.pairwise_map.mp sorted) first.toNat second.toNat
      (by simpa using firstInside) (by simpa using inside) before
  simp only [Array.getElem_toList] at inOrder
  exact rank_lt_rank few before
    (Container.getElem?_of_grown grown (Array.getElem?_eq_getElem firstInside))
    (Container.getElem?_of_grown grown (Array.getElem?_eq_getElem inside))
    (carried _ (Array.getElem_mem firstInside) _ (Array.getElem_mem inside) inOrder)

end Numbering

namespace Container

/-- A container in canonical order keeps the order of its entries when its pools grow and are sorted
again. -/
theorem Extends.keepsOrder
    {before after : Container}
    (grown : before.Extends after)
    (closed : before.Closed)
    (ordered : ∀ pool, (before.poolKeys pool).Pairwise (· ≤ ·))
    (numbered : after.Numbered)
    (pool : Pool) :
    KeepsOrder (before.poolSize pool) ((Renumbering.ofContainer after).map pool) := by
  obtain ⟨types, protos, fields, methods⟩ := forall_poolRefs_iff.mp closed.pools
  have strings : KeepsOrder before.strings.size ((Renumbering.ofContainer after).map .string) :=
    Numbering.keepsOrder_rank grown.strings numbered.strings (ordered .string)
      fun _ _ _ _ inOrder => inOrder
  have typesKeep : KeepsOrder before.types.size ((Renumbering.ofContainer after).map .type) := by
    refine Numbering.keepsOrder_rank grown.types numbered.types (ordered .type)
      fun first _ second member inOrder => ?_
    exact strings.cons_le_cons (types second member).1 id inOrder
  have protosKeep : KeepsOrder before.protos.size ((Renumbering.ofContainer after).map .proto) := by
    refine Numbering.keepsOrder_rank grown.protos numbered.protos (ordered .proto)
      fun first _ second member inOrder => ?_
    obtain ⟨-, parameters, returnType⟩ := Proto.forall_mem_refs_iff.mp (protos second member)
    exact typesKeep.cons_le_cons returnType.1
      (typesKeep.map_le_map fun type isParameter => (parameters type isParameter).1) inOrder
  cases pool with
  | string => exact strings
  | type => exact typesKeep
  | proto => exact protosKeep
  | field =>
      refine Numbering.keepsOrder_rank grown.fields numbered.fields (ordered .field)
        fun first _ second member inOrder => ?_
      obtain ⟨declaringType, name, type⟩ := FieldId.forall_mem_refs_iff.mp (fields second member)
      exact typesKeep.cons_le_cons declaringType.1
        (strings.cons_le_cons name.1 (typesKeep.cons_le_cons type.1 id)) inOrder
  | method =>
      refine Numbering.keepsOrder_rank grown.methods numbered.methods (ordered .method)
        fun first _ second member inOrder => ?_
      obtain ⟨declaringType, name, proto⟩ :=
        MethodId.forall_mem_refs_iff.mp (methods second member)
      exact typesKeep.cons_le_cons declaringType.1
        (strings.cons_le_cons name.1 (protosKeep.cons_le_cons proto.1 id)) inOrder
  | _ => exact fun _ _ _ before => before

end Container

end DexPatch
