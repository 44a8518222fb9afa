import DexPatch.Error

namespace DexPatch

/-!
# Requests and their outcomes

A request names a method and says what its body is to return.  Applying one
ends in one of three ways, and each is reported in a line of its own.
-/

/-- What a method is made to return. -/
inductive Behavior where
  | emptyList
  | constantFalse
  | constantTrue
deriving DecidableEq, Repr, Inhabited

namespace Behavior

/-- All behaviors, in the order in which listings show them. -/
def all : List Behavior := [.emptyList, .constantFalse, .constantTrue]

/-- The name of a behavior in specs, tables and listings. -/
def name : Behavior → String
  | .emptyList => "RET_EMPTY_LIST"
  | .constantFalse => "RET_FALSE"
  | .constantTrue => "RET_TRUE"

/-- The behavior of a name. -/
def ofName? (name : String) : Option Behavior := all.find? (·.name == name)

/-- The descriptor of the list type. -/
def listType : String := "Ljava/util/List;"

/-- The return type that a method must have for the behavior to fit it. -/
def returnType : Behavior → String
  | .emptyList => listType
  | .constantFalse => "Z"
  | .constantTrue => "Z"

theorem ofName?_name (behavior : Behavior) : ofName? behavior.name = some behavior := by
  cases behavior <;> rfl

end Behavior

/-- Where the empty list comes from: a call, or a field that holds it. -/
inductive EmptyListForm where
  | invoke
  | field
deriving DecidableEq, Repr, Inhabited

namespace EmptyListForm

/-- The name of a form on the command line. -/
def name : EmptyListForm → String
  | .invoke => "invoke"
  | .field => "field"

/-- The form of a name. -/
def ofName? (name : String) : Option EmptyListForm := [invoke, field].find? (·.name == name)

end EmptyListForm

/-- A method to patch.  The declaring type and the parameter types narrow the choice where they
are given. -/
structure Request where
  methodName : String
  declaringType : Option String
  parameterTypes : Option (List String)
  behavior : Behavior
deriving DecidableEq, Repr, Inhabited

/-- A request for any method of a name that the behavior fits. -/
def Request.unqualified (methodName : String) (behavior : Behavior) : Request :=
  { methodName, declaringType := none, parameterTypes := none, behavior }

/-- How applying a request ended. -/
inductive Status where
  /-- The method with the signature has its new body. -/
  | patched (signature : String)
  /-- No method fits the request. -/
  | notFound
  /-- A method fits, but no body could be made for it. -/
  | assemblyFailed (reason : AssemblyError)
deriving DecidableEq, Repr

/-- How applying the request for a method name ended. -/
structure Outcome where
  methodName : String
  status : Status
deriving DecidableEq, Repr

namespace Outcome

/-- Was a body replaced? -/
def isPatched (outcome : Outcome) : Bool :=
  match outcome.status with
  | .patched _ => true
  | .notFound => false
  | .assemblyFailed _ => false

/-- The line that reports an outcome. -/
def line (outcome : Outcome) : String :=
  match outcome.status with
  | .patched _ => "Patched: " ++ outcome.methodName
  | .notFound => "Method not found: " ++ outcome.methodName ++ "(...)"
  | .assemblyFailed reason => "Patch failed: " ++ outcome.methodName ++ ": " ++ reason.message

end Outcome

end DexPatch
