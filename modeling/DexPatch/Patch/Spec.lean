import DexPatch.Patch.Request
import DexPatch.Text.Blank

namespace DexPatch

open Text

/-!
# Patch specs

A spec is a line of entries `method:BEHAVIOR`, each ended by a semicolon or
by the end of the line.  Blanks around the parts do not count, and neither do
blank entries.  The first entry that is wrong makes the whole spec wrong; it
is told by its place among the entries that are not blank.
-/

/-- Why a text is no spec. -/
inductive SpecError where
  | missingSeparator (position : Nat) (entry : String)
  | missingMethodName (position : Nat) (entry : String)
  | unknownBehavior (position : Nat) (entry behavior : String)
deriving DecidableEq, Repr

def SpecError.message : SpecError → String
  | .missingSeparator position entry =>
    s!"entry {position} ({quoted entry}) has no ':' between method name and behavior"
  | .missingMethodName position entry =>
    s!"entry {position} ({quoted entry}) has an empty method name"
  | .unknownBehavior position entry behavior =>
    s!"entry {position} ({quoted entry}) has unknown behavior {quoted behavior}, " ++
      "expected RET_EMPTY_LIST, RET_FALSE or RET_TRUE"

namespace Spec

/-- The entries of a spec that are not blank, trimmed. -/
def entries (text : String) : List (List Char) :=
  ((splitAt ';' text.toList).map trim).filter (!·.isEmpty)

/-- The request of the entry at a position. -/
def parseEntry (position : Nat) (entry : List Char) : Except SpecError Request :=
  match cutAt ':' entry with
  | none => .error (.missingSeparator position (String.ofList entry))
  | some (before, after) =>
    if (trim before).isEmpty then
      .error (.missingMethodName position (String.ofList entry))
    else
      let behavior := String.ofList (trim after)
      match Behavior.ofName? behavior with
      | none => .error (.unknownBehavior position (String.ofList entry) behavior)
      | some behavior => .ok (.unqualified (String.ofList (trim before)) behavior)

/-- The requests of the entries from a position on. -/
def parseFrom : (position : Nat) → List (List Char) → Except SpecError (List Request)
  | _, [] => .ok []
  | position, entry :: rest => do
    let request ← parseEntry position entry
    let requests ← parseFrom (position + 1) rest
    return request :: requests

/-- The requests of a spec, in the order of its entries. -/
def parse (text : String) : Except SpecError (List Request) := parseFrom 1 (entries text)

end Spec

end DexPatch
