import DexPatch.Container.Basic

namespace DexPatch.Container

/-!
# Reading a container's names

Numbers resolve to texts through the pools.  A number that a pool does not
have resolves to a text that no descriptor or name can be.
-/

/-- The text of a string number. -/
def string (container : Container) (index : UInt32) : String :=
  match container.strings[index.toNat]? with
  | some string => string.text
  | none => "<bad string>"

/-- The descriptor of a type number. -/
def typeName (container : Container) (index : UInt32) : String :=
  match container.types[index.toNat]? with
  | some string => container.string string
  | none => "<bad type>"

/-- The number of the first string that reads as the text. -/
def findString? (container : Container) (text : String) : Option UInt32 :=
  (container.strings.findIdx? (·.reads text)).map UInt32.ofNat

/-- The number of the first type with the descriptor. -/
def findType? (container : Container) (descriptor : String) : Option UInt32 :=
  match container.findString? descriptor with
  | none => none
  | some string => (container.types.findIdx? (· == string)).map UInt32.ofNat

end DexPatch.Container
