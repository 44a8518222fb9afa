import DexPatch.Container.Records
import DexPatch.Patch.Request

namespace DexPatch

/-!
# Finding the method of a request

A request fits the methods that have its name, the return type of its
behavior and a body, and that agree with its qualifiers.  It is applied to
the first of them in declaration order.
-/

namespace Request

/-- Does the request fit the method? -/
def fits (request : Request) (record : MethodRecord) : Bool :=
  record.name == request.methodName &&
    record.returnType == request.behavior.returnType &&
    request.declaringType.all (record.declaringType == ·) &&
    request.parameterTypes.all (record.parameterTypes == ·) &&
    record.hasBody

/-- The method that the request is applied to. -/
def target? (request : Request) (container : Container) : Option MethodRecord :=
  container.records.find? request.fits

end Request

end DexPatch
