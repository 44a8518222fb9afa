import DexPatch.Container.References

namespace DexPatch

/-!
# Canonical order and the numbers it gives

Each pool of an image is sorted by a key, and keys are compared as lists of
numbers are.  The key of a string is its UTF-16 units; the keys of the other
pools are made of the numbers that the entries' parts have after the pools
they point into are sorted.  Entries with equal keys keep their order.
-/

/-- What a pool is ordered by; keys compare lexicographically. -/
abbrev SortKey := List Nat

/-- Does the first key not come behind the second? -/
def notBehind : SortKey → SortKey → Bool
  | [], _ => true
  | _ :: _, [] => false
  | first :: firsts, second :: seconds =>
    decide (first < second) || (first == second && notBehind firsts seconds)

/-- The positions of the keys, those of smaller keys first. -/
def ascending (keys : List SortKey) : List Nat :=
  (keys.zipIdx.mergeSort fun first second => notBehind first.1 second.1).map (·.2)

/-- Elements by ascending key; those with equal keys keep their order. -/
def sortOn {α : Type} (key : α → UInt32) (list : List α) : List α :=
  list.mergeSort fun first second => decide (key first ≤ key second)

/-- A new order of a pool. -/
structure Numbering where
  /-- The old number of each entry, in the new order. -/
  order : List Nat
  /-- The new number of each entry, in the old order. -/
  ranks : Array UInt32
deriving Repr

namespace Numbering

/-- The order of entries with the given keys. -/
def ofKeys (keys : List SortKey) : Numbering :=
  let order := ascending keys
  { order
    ranks := order.zipIdx.foldl (fun ranks (old, new) => ranks.setIfInBounds old (UInt32.ofNat new))
      (Array.replicate order.length 0) }

/-- The new number of an entry; a number that no entry has stays as it is. -/
def rank (numbering : Numbering) (index : UInt32) : UInt32 :=
  numbering.ranks[index.toNat]?.getD index

/-- The entries in the new order. -/
def arrange {α : Type} (numbering : Numbering) (entries : Array α) : Array α :=
  (numbering.order.filterMap (entries[·]?)).toArray

end Numbering

/-- A new order of all five pools. -/
structure Renumbering where
  strings : Numbering
  types : Numbering
  protos : Numbering
  fields : Numbering
  methods : Numbering
deriving Repr

namespace Renumbering

/-- The order of strings: by their UTF-16 units. -/
def stringKey (string : PoolString) : SortKey := string.units.map (·.toNat)

/-- The canonical order of a container's pools. -/
def ofContainer (container : Container) : Renumbering :=
  let strings := Numbering.ofKeys (container.strings.toList.map stringKey)
  let string (index : UInt32) : Nat := (strings.rank index).toNat
  let types := Numbering.ofKeys (container.types.toList.map fun index => [string index])
  let type (index : UInt32) : Nat := (types.rank index).toNat
  let protos := Numbering.ofKeys (container.protos.toList.map fun proto =>
    type proto.returnType :: proto.parameters.map type)
  let proto (index : UInt32) : Nat := (protos.rank index).toNat
  let fields := Numbering.ofKeys (container.fields.toList.map fun id =>
    [type id.declaringType, string id.name, type id.type])
  let methods := Numbering.ofKeys (container.methods.toList.map fun id =>
    [type id.declaringType, string id.name, proto id.proto])
  { strings, types, protos, fields, methods }

/-- The new number behind a reference.  Call sites and handles are not reordered. -/
def map (renumbering : Renumbering) : RefMap
  | .string, index => renumbering.strings.rank index
  | .type, index => renumbering.types.rank index
  | .proto, index => renumbering.protos.rank index
  | .field, index => renumbering.fields.rank index
  | .method, index => renumbering.methods.rank index
  | .callSite, index => index
  | .methodHandle, index => index
  | .methodHandleTarget, index => index
  | .catchHandler, index => index

end Renumbering

namespace Container

/-- The container with its pools in another order. -/
def permutePools (renumbering : Renumbering) (container : Container) : Container :=
  { container with
    strings := renumbering.strings.arrange container.strings
    types := renumbering.types.arrange container.types
    protos := renumbering.protos.arrange container.protos
    fields := renumbering.fields.arrange container.fields
    methods := renumbering.methods.arrange container.methods }

/-- The container with its pools in another order and every reference following its entry. -/
def renumbered (container : Container) (renumbering : Renumbering) : Container :=
  (container.mapRefs renumbering.map).permutePools renumbering

end Container

end DexPatch
