import DexPatch.Container.References
import DexPatch.Image.Values
import DexPatch.Renumber.Arranged
import DexPatch.Renumber.Representable

namespace DexPatch.Value

/-!
# Values inside values

An array holds values and an annotation holds named ones.  What holds of a
value if it holds of all values directly inside it holds of every value.  The
functions that walk over items and elements are maps over them.
-/

/-- The values directly inside a value. -/
def inner : Value → List Value
  | .array items => items
  | .annotated _ elements => elements.map (·.2)
  | _ => []

/-- A value directly inside another one is smaller. -/
theorem sizeOf_lt_of_mem_inner
    {value part : Value}
    (member : part ∈ value.inner) :
    sizeOf part < sizeOf value := by
  cases value with
  | array items =>
      have smaller := List.sizeOf_lt_of_mem (show part ∈ items from member)
      simp only [array.sizeOf_spec]
      omega
  | annotated index elements =>
      obtain ⟨element, isElement, rfl⟩ := List.mem_map.mp member
      have smaller := List.sizeOf_lt_of_mem isElement
      have partSmaller : sizeOf element.2 < sizeOf element := by
        rcases element with ⟨name, value⟩
        simp only [Prod.mk.sizeOf_spec]
        omega
      simp only [annotated.sizeOf_spec]
      omega
  | _ =>
      simp [inner] at member

/-- What passes from the values inside a value to the value holds of every value. -/
theorem nestedInduction
    {motive : Value → Prop}
    (step : ∀ value, (∀ part ∈ value.inner, motive part) → motive value)
    (value : Value) :
    motive value :=
  step value fun part _ => nestedInduction step part
termination_by sizeOf value
decreasing_by exact sizeOf_lt_of_mem_inner ‹_›

/-! ## Walks as maps -/

theorem bytesOfItems_eq (items : List Value) :
    bytesOfItems items = items.flatMap Value.bytes := by
  induction items with
  | nil =>
      rfl
  | cons item rest inductionHypothesis =>
      simp [bytesOfItems, inductionHypothesis]

theorem bytesOfElements_eq (elements : List (UInt32 × Value)) :
    bytesOfElements elements =
      elements.flatMap fun element => Leb128.unsigned element.1 ++ element.2.bytes := by
  induction elements with
  | nil =>
      rfl
  | cons element rest inductionHypothesis =>
      simp [bytesOfElements, inductionHypothesis]

theorem mapRefsItems_eq (f : RefMap) (items : List Value) :
    mapRefsItems f items = items.map (Value.mapRefs f) := by
  induction items with
  | nil =>
      rfl
  | cons item rest inductionHypothesis =>
      simp [mapRefsItems, inductionHypothesis]

theorem mapRefsElements_eq (f : RefMap) (elements : List (UInt32 × Value)) :
    mapRefsElements f elements =
      elements.map fun element => (f .string element.1, element.2.mapRefs f) := by
  induction elements with
  | nil =>
      rfl
  | cons element rest inductionHypothesis =>
      simp [mapRefsElements, inductionHypothesis]

theorem arrangedItems_eq (items : List Value) :
    arrangedItems items = items.map Value.arranged := by
  induction items with
  | nil =>
      rfl
  | cons item rest inductionHypothesis =>
      simp [arrangedItems, inductionHypothesis]

theorem arrangedElements_eq (elements : List (UInt32 × Value)) :
    arrangedElements elements =
      elements.map fun element => (element.1, element.2.arranged) := by
  induction elements with
  | nil =>
      rfl
  | cons element rest inductionHypothesis =>
      simp [arrangedElements, inductionHypothesis]

theorem refsItems_eq (items : List Value) :
    refsItems items = items.flatMap Value.refs := by
  induction items with
  | nil =>
      rfl
  | cons item rest inductionHypothesis =>
      simp [refsItems, inductionHypothesis]

theorem refsElements_eq (elements : List (UInt32 × Value)) :
    refsElements elements = elements.map fun element => (element.1, element.2.refs) := by
  induction elements with
  | nil =>
      rfl
  | cons element rest inductionHypothesis =>
      simp [refsElements, inductionHypothesis]

end DexPatch.Value
