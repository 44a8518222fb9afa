import DexPatch.Renumber.Order

namespace DexPatch

/-!
# New orders of a pool

Sorting positions by key gives every position once, and the rank of a position
is where it ends up.  So ranks renumber a pool without losing or merging
entries, and where the keys are in order already they change nothing.
-/

/-! ## Comparing keys -/

theorem notBehind_trans
    (first second third : SortKey)
    (firstSecond : notBehind first second)
    (secondThird : notBehind second third) :
    notBehind first third := by
  induction first generalizing second third with
  | nil =>
      simp [notBehind]
  | cons x xs inductionHypothesis =>
      cases second with
      | nil =>
          simp [notBehind] at firstSecond
      | cons y ys =>
          cases third with
          | nil =>
              simp [notBehind] at secondThird
          | cons z zs =>
              simp only [notBehind, Bool.or_eq_true, decide_eq_true_eq, Bool.and_eq_true,
                beq_iff_eq] at firstSecond secondThird ⊢
              rcases firstSecond with less | ⟨rfl, rest⟩
              · rcases secondThird with lessToo | ⟨rfl, -⟩
                · exact .inl (Nat.lt_trans less lessToo)
                · exact .inl less
              · rcases secondThird with less | ⟨rfl, restToo⟩
                · exact .inl less
                · exact .inr ⟨rfl, inductionHypothesis ys zs rest restToo⟩

theorem notBehind_total (first second : SortKey) :
    notBehind first second || notBehind second first := by
  induction first generalizing second with
  | nil =>
      simp [notBehind]
  | cons x xs inductionHypothesis =>
      cases second with
      | nil =>
          simp [notBehind]
      | cons y ys =>
          have either := inductionHypothesis ys
          simp only [notBehind, Bool.or_eq_true, decide_eq_true_eq, Bool.and_eq_true,
            beq_iff_eq] at either ⊢
          rcases Nat.lt_trichotomy x y with less | rfl | greater
          · exact .inl (.inl less)
          · rcases either with rest | rest
            · exact .inl (.inr ⟨rfl, rest⟩)
            · exact .inr (.inr ⟨rfl, rest⟩)
          · exact .inr (.inl greater)

/-! ## Sorting positions -/

/-- Every position is somewhere in the new order, once. -/
theorem ascending_perm (keys : List SortKey) :
    (ascending keys).Perm (List.range keys.length) := by
  have sorted :=
    (List.mergeSort_perm keys.zipIdx fun first second => notBehind first.1 second.1).map (·.2)
  have positions : keys.zipIdx.map (·.2) = List.range keys.length := by
    rw [List.range_eq_range', List.zipIdx_eq_zip_range']
    exact List.map_snd_zip (by simp)
  rwa [positions] at sorted

/-- The keys stand in order at the positions of the new order. -/
theorem pairwise_ascending (keys : List SortKey) :
    (ascending keys).Pairwise fun first second =>
      ∀ firstKey secondKey,
        keys[first]? = some firstKey → keys[second]? = some secondKey →
          notBehind firstKey secondKey := by
  have sorted :
      (keys.zipIdx.mergeSort fun first second => notBehind first.1 second.1).Pairwise
        fun first second => notBehind first.1 second.1 :=
    List.pairwise_mergeSort
      (fun first second third => notBehind_trans first.1 second.1 third.1)
      (fun first second => notBehind_total first.1 second.1) keys.zipIdx
  refine List.pairwise_map.mpr (sorted.imp_of_mem ?_)
  intro first second firstMember secondMember inOrder firstKey secondKey firstFound secondFound
  have firstSame := List.mem_zipIdx_iff_getElem?.mp (List.mem_mergeSort.mp firstMember)
  have secondSame := List.mem_zipIdx_iff_getElem?.mp (List.mem_mergeSort.mp secondMember)
  rw [firstFound] at firstSame
  rw [secondFound] at secondSame
  rw [Option.some.inj firstSame, Option.some.inj secondSame]
  exact inOrder

/-- Keys that are in order stay where they are. -/
theorem ascending_of_pairwise
    {keys : List SortKey}
    (sorted : keys.Pairwise fun first second => notBehind first second) :
    ascending keys = List.range keys.length := by
  have pairs :
      keys.zipIdx.Pairwise fun first second => notBehind first.1 second.1 := by
    rw [← List.pairwise_map (f := Prod.fst) (R := fun first second => notBehind first second)]
    rwa [List.zipIdx_eq_zip_range', List.map_fst_zip (by simp)]
  rw [ascending, List.mergeSort_of_pairwise pairs, List.range_eq_range', List.zipIdx_eq_zip_range']
  exact List.map_snd_zip (by simp)

namespace Numbering

/-- A numbering of so many entries: its order has each of them once, and its ranks invert it. -/
structure Covers (numbering : Numbering) (count : Nat) : Prop where
  perm : numbering.order.Perm (List.range count)
  size : numbering.ranks.size = count
  inverse :
    ∀ (new old : Nat), numbering.order[new]? = some old →
      numbering.ranks[old]? = some (UInt32.ofNat new)

/-- Numbers written to other places leave a place as it was. -/
theorem getElem?_foldl_setIfInBounds_of_notMem
    {entries : List (Nat × Nat)}
    {ranks : Array UInt32}
    {old : Nat}
    (elsewhere : old ∉ entries.map (·.1)) :
    (entries.foldl (fun ranks (old, new) => ranks.setIfInBounds old (UInt32.ofNat new))
        ranks)[old]? = ranks[old]? := by
  induction entries generalizing ranks with
  | nil =>
      rfl
  | cons entry rest inductionHypothesis =>
      simp only [List.map_cons, List.mem_cons, not_or] at elsewhere
      rw [List.foldl_cons, inductionHypothesis elsewhere.2,
        Array.getElem?_setIfInBounds_ne (Ne.symm elsewhere.1)]

/-- Numbers written to different places are all there. -/
theorem getElem?_foldl_setIfInBounds
    {entries : List (Nat × Nat)}
    (different : (entries.map (·.1)).Nodup)
    {ranks : Array UInt32}
    {old new : Nat}
    (member : (old, new) ∈ entries)
    (inside : old < ranks.size) :
    (entries.foldl (fun ranks (old, new) => ranks.setIfInBounds old (UInt32.ofNat new))
        ranks)[old]? = some (UInt32.ofNat new) := by
  induction entries generalizing ranks with
  | nil =>
      simp at member
  | cons entry rest inductionHypothesis =>
      obtain ⟨elsewhere, differentRest⟩ := List.nodup_cons.mp different
      rw [List.foldl_cons]
      rcases List.mem_cons.mp member with rfl | later
      · rw [getElem?_foldl_setIfInBounds_of_notMem elsewhere,
          Array.getElem?_setIfInBounds_self_of_lt inside]
      · exact inductionHypothesis differentRest later (by simpa using inside)

theorem size_foldl_setIfInBounds (entries : List (Nat × Nat)) (ranks : Array UInt32) :
    (entries.foldl (fun ranks (old, new) => ranks.setIfInBounds old (UInt32.ofNat new))
        ranks).size = ranks.size := by
  induction entries generalizing ranks with
  | nil =>
      rfl
  | cons entry rest inductionHypothesis =>
      rw [List.foldl_cons, inductionHypothesis, Array.size_setIfInBounds]

/-- A numbering made of keys covers as many entries as there are keys. -/
theorem covers_ofKeys (keys : List SortKey) : (ofKeys keys).Covers keys.length := by
  have perm := ascending_perm keys
  have length : (ascending keys).length = keys.length := by
    rw [perm.length_eq, List.length_range]
  refine ⟨perm, ?_, fun new old found => ?_⟩
  · simp only [ofKeys, size_foldl_setIfInBounds, Array.size_replicate, length]
  · have firsts : (ascending keys).zipIdx.map (·.1) = ascending keys := by
      rw [List.zipIdx_eq_zip_range']
      exact List.map_fst_zip (by simp)
    have inside : old < keys.length :=
      List.mem_range.mp (perm.mem_iff.mp (List.mem_of_getElem? found))
    refine getElem?_foldl_setIfInBounds ?_ (List.mem_zipIdx_iff_getElem?.mpr found) ?_
    · rw [firsts]
      exact perm.nodup_iff.mpr List.nodup_range
    · rwa [Array.size_replicate, length]

/-- A numbering made of the keys of entries covers the entries. -/
theorem covers_ofKeys_map
    {α : Type}
    (entries : Array α)
    (key : α → SortKey) :
    (ofKeys (entries.toList.map key)).Covers entries.size := by
  have covers := covers_ofKeys (entries.toList.map key)
  rwa [List.length_map, Array.length_toList] at covers

namespace Covers

variable {numbering : Numbering} {count : Nat}

theorem length_order (covers : numbering.Covers count) : numbering.order.length = count := by
  rw [covers.perm.length_eq, List.length_range]

/-- The rank of an entry counts a place in the new order, that of its number. -/
theorem exists_place
    (covers : numbering.Covers count)
    {index : UInt32}
    (inside : index.toNat < count) :
    ∃ new < count,
      numbering.order[new]? = some index.toNat ∧ numbering.rank index = UInt32.ofNat new := by
  have member : index.toNat ∈ numbering.order :=
    covers.perm.mem_iff.mpr (List.mem_range.mpr inside)
  obtain ⟨new, found⟩ := List.mem_iff_getElem?.mp member
  refine ⟨new, ?_, found, ?_⟩
  · rw [← covers.length_order]
    exact (List.getElem?_eq_some_iff.mp found).1
  · rw [Numbering.rank, covers.inverse new _ found, Option.getD_some]

/-- An entry's rank is the place of its number in the new order. -/
theorem order_rank
    (covers : numbering.Covers count)
    (few : count ≤ 4294967296)
    {index : UInt32}
    (inside : index.toNat < count) :
    numbering.order[(numbering.rank index).toNat]? = some index.toNat := by
  obtain ⟨new, bound, found, rank⟩ := covers.exists_place inside
  rwa [rank, UInt32.toNat_ofNat_of_lt' (Nat.lt_of_lt_of_le bound few)]

/-- Ranks of entries are numbers of entries. -/
theorem rank_lt
    (covers : numbering.Covers count)
    {index : UInt32}
    (inside : index.toNat < count) :
    (numbering.rank index).toNat < count := by
  obtain ⟨new, bound, -, rank⟩ := covers.exists_place inside
  rw [rank, UInt32.toNat_ofNat']
  exact Nat.lt_of_le_of_lt (Nat.mod_le _ _) bound

/-- A number that no entry has stays as it is. -/
theorem rank_of_le
    (covers : numbering.Covers count)
    {index : UInt32}
    (outside : count ≤ index.toNat) :
    numbering.rank index = index := by
  rw [Numbering.rank, Array.getElem?_eq_none (by rw [covers.size]; exact outside), Option.getD_none]

/-- Only numbers of entries have such ranks. -/
theorem rank_lt_iff
    (covers : numbering.Covers count)
    {index : UInt32} :
    (numbering.rank index).toNat < count ↔ index.toNat < count := by
  refine ⟨fun inside => ?_, covers.rank_lt⟩
  rcases Nat.lt_or_ge index.toNat count with within | outside
  · exact within
  · rwa [covers.rank_of_le outside] at inside

/-- No two numbers have one rank. -/
theorem rank_injective
    (covers : numbering.Covers count)
    (few : count ≤ 4294967296)
    {first second : UInt32}
    (same : numbering.rank first = numbering.rank second) :
    first = second := by
  by_cases inside : first.toNat < count
  · have insideToo : second.toNat < count := by
      rw [← covers.rank_lt_iff, ← same]
      exact covers.rank_lt inside
    have found := covers.order_rank few inside
    rw [same, covers.order_rank few insideToo] at found
    exact UInt32.toNat_inj.mp (Option.some.inj found).symm
  · have outsideToo : count ≤ second.toNat := by
      rw [← Nat.not_lt, ← covers.rank_lt_iff, ← same, covers.rank_lt_iff]
      exact inside
    rw [covers.rank_of_le (Nat.le_of_not_lt inside), covers.rank_of_le outsideToo] at same
    exact same

/-- Every number is a rank. -/
theorem rank_surjective
    (covers : numbering.Covers count)
    (few : count ≤ 4294967296)
    (index : UInt32) :
    ∃ old, numbering.rank old = index := by
  by_cases inside : index.toNat < count
  · have bound : index.toNat < numbering.order.length := by
      rwa [covers.length_order]
    have found := covers.inverse index.toNat _ (List.getElem?_eq_getElem bound)
    have old : numbering.order[index.toNat] < count :=
      List.mem_range.mp (covers.perm.mem_iff.mp (List.getElem_mem bound))
    refine ⟨UInt32.ofNat numbering.order[index.toNat], ?_⟩
    rw [Numbering.rank, UInt32.toNat_ofNat', Nat.mod_eq_of_lt (by omega), found, Option.getD_some,
      UInt32.ofNat_toNat]
  · exact ⟨index, covers.rank_of_le (Nat.le_of_not_lt inside)⟩

/-! ### Rearranged entries -/

section Arrange

variable {α β : Type} {entries : Array α}

/-- Positions that all have an entry are replaced by their entries one by one. -/
theorem getElem?_filterMap_getElem?
    {order : List Nat}
    (inside : ∀ old ∈ order, old < entries.size)
    (new : Nat) :
    (order.filterMap (entries[·]?))[new]? = order[new]?.bind (entries[·]?) := by
  induction order generalizing new with
  | nil =>
      simp
  | cons old rest inductionHypothesis =>
      have bound := inside old (by simp)
      have later := inductionHypothesis fun other member => inside other (by simp [member])
      rw [List.filterMap_cons, Array.getElem?_eq_getElem bound]
      cases new with
      | zero =>
          simp [Array.getElem?_eq_getElem bound]
      | succ new =>
          simpa using later new

theorem inside_of_mem_order
    (covers : numbering.Covers count)
    {old : Nat}
    (member : old ∈ numbering.order) :
    old < count :=
  List.mem_range.mp (covers.perm.mem_iff.mp member)

/-- What stands at a place of the new order. -/
theorem getElem?_arrange
    (covers : numbering.Covers entries.size)
    (new : Nat) :
    (numbering.arrange entries)[new]? = numbering.order[new]?.bind (entries[·]?) := by
  rw [arrange, List.getElem?_toArray,
    getElem?_filterMap_getElem? (fun old member => covers.inside_of_mem_order member)]

/-- Rearranged entries are the old ones in another order. -/
theorem arrange_perm (covers : numbering.Covers entries.size) :
    (numbering.arrange entries).toList.Perm entries.toList := by
  have moved := covers.perm.filterMap (entries[·]?)
  have all : (List.range entries.size).filterMap (entries[·]?) = entries.toList := by
    apply List.ext_getElem?
    intro i
    rw [getElem?_filterMap_getElem? (fun old member => List.mem_range.mp member)]
    by_cases inside : i < entries.size
    · simp [inside]
    · simp [Nat.le_of_not_lt inside]
  rw [all] at moved
  simpa [arrange] using moved

theorem size_arrange (covers : numbering.Covers entries.size) :
    (numbering.arrange entries).size = entries.size := by
  simpa using covers.arrange_perm.length_eq

/-- An entry stands at its rank. -/
theorem getElem?_arrange_rank
    (covers : numbering.Covers entries.size)
    (few : entries.size ≤ 4294967296)
    (index : UInt32) :
    (numbering.arrange entries)[(numbering.rank index).toNat]? = entries[index.toNat]? := by
  by_cases inside : index.toNat < entries.size
  · rw [covers.getElem?_arrange, covers.order_rank few inside]
    rfl
  · rw [covers.rank_of_le (Nat.le_of_not_lt inside), Array.getElem?_eq_none (by
        rw [covers.size_arrange]
        exact Nat.le_of_not_lt inside),
      Array.getElem?_eq_none (Nat.le_of_not_lt inside)]

/-- Entries can be changed before they are rearranged, or after. -/
theorem arrange_map (change : α → β) :
    numbering.arrange (entries.map change) = (numbering.arrange entries).map change := by
  simp only [arrange, Array.getElem?_map]
  rw [List.map_toArray, List.map_filterMap]

/-- A changed entry stands at the rank of the old one. -/
theorem getElem?_arrange_map_rank
    (covers : numbering.Covers entries.size)
    (few : entries.size ≤ 4294967296)
    (change : α → β)
    (index : UInt32) :
    (numbering.arrange (entries.map change))[(numbering.rank index).toNat]? =
      entries[index.toNat]?.map change := by
  rw [arrange_map, Array.getElem?_map, covers.getElem?_arrange_rank few]

theorem size_arrange_map
    (covers : numbering.Covers entries.size)
    (change : α → β) :
    (numbering.arrange (entries.map change)).size = entries.size := by
  rw [arrange_map, Array.size_map, covers.size_arrange]

/-- Changed and rearranged entries are the changed ones in another order. -/
theorem arrange_map_perm
    (covers : numbering.Covers entries.size)
    (change : α → β) :
    (numbering.arrange (entries.map change)).toList.Perm (entries.toList.map change) := by
  rw [arrange_map, Array.toList_map]
  exact covers.arrange_perm.map change

end Arrange

end Covers

variable {α : Type} {entries : Array α} {key : α → SortKey}

/-- Entries numbered by their keys are rearranged into the order of the keys. -/
theorem pairwise_arrange :
    ((ofKeys (entries.toList.map key)).arrange entries).toList.Pairwise fun first second =>
      notBehind (key first) (key second) := by
  simp only [arrange, ofKeys]
  refine List.pairwise_filterMap.mpr ((pairwise_ascending _).imp ?_)
  intro first second inOrder x isFirst y isSecond
  exact inOrder (key x) (key y) (by simpa using ⟨x, isFirst, rfl⟩) (by simpa using ⟨y, isSecond, rfl⟩)

/-- Entries whose keys are in order keep their numbers. -/
theorem rank_of_pairwise
    {keys : List SortKey}
    (sorted : keys.Pairwise fun first second => notBehind first second)
    (few : keys.length ≤ 4294967296)
    (index : UInt32) :
    (ofKeys keys).rank index = index := by
  have covers := covers_ofKeys keys
  by_cases inside : index.toNat < keys.length
  · have found := covers.order_rank few inside
    rw [show (ofKeys keys).order = _ from ascending_of_pairwise sorted,
      List.getElem?_range (covers.rank_lt inside)] at found
    exact UInt32.toNat_inj.mp (Option.some.inj found)
  · exact covers.rank_of_le (Nat.le_of_not_lt inside)

/-- Entries whose keys are in order stay where they are. -/
theorem arrange_of_pairwise
    {keys : List SortKey}
    (sorted : keys.Pairwise fun first second => notBehind first second)
    (sameLength : entries.size = keys.length) :
    (ofKeys keys).arrange entries = entries := by
  have covers := covers_ofKeys keys
  rw [← sameLength] at covers
  apply Array.ext_getElem?
  intro i
  rw [covers.getElem?_arrange, show (ofKeys keys).order = _ from ascending_of_pairwise sorted]
  by_cases inside : i < entries.size
  · rw [List.getElem?_range (by omega)]
    rfl
  · rw [List.getElem?_eq_none (by simp; omega), Array.getElem?_eq_none (by omega)]
    rfl

end Numbering

/-! ## Sorting lists by number -/

section SortOn

variable {α β : Type} (key : α → UInt32)

/-- Sorting only reorders. -/
theorem sortOn_perm (list : List α) : (sortOn key list).Perm list :=
  List.mergeSort_perm list _

/-- A sorted list is in order. -/
theorem pairwise_sortOn (list : List α) :
    (sortOn key list).Pairwise fun first second => key first ≤ key second := by
  have sorted :
      (list.mergeSort fun first second => decide (key first ≤ key second)).Pairwise
        fun first second => decide (key first ≤ key second) = true :=
    List.pairwise_mergeSort
      (fun first second third => by simpa using UInt32.le_trans)
      (fun first second => by simpa using UInt32.le_total (key first) (key second)) list
  exact sorted.imp fun inOrder => of_decide_eq_true inOrder

/-- Sorting a list that is in order changes nothing. -/
theorem sortOn_of_pairwise
    {list : List α}
    (sorted : list.Pairwise fun first second => key first ≤ key second) :
    sortOn key list = list :=
  List.mergeSort_of_pairwise (sorted.imp fun inOrder => decide_eq_true inOrder)

/-- Elements can be changed before they are sorted, or after, if their keys stay the same. -/
theorem sortOn_map
    {otherKey : β → UInt32}
    {change : α → β}
    (same : ∀ x, otherKey (change x) = key x)
    (list : List α) :
    sortOn otherKey (list.map change) = (sortOn key list).map change :=
  (List.map_mergeSort fun x _ y _ => by rw [same, same]).symm

end SortOn

end DexPatch
