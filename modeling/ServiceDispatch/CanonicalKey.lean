import ServiceDispatch.Signature
import ServiceDispatch.TypeName.Normal

/-!
# Canonical keys

The flat text that identifies an operation both where it is declared and where it is called: the
normal form of the declaring type, the method, and for each parameter its direction and the normal
form of its type. Names, positions and the return shape play no part.
-/

namespace ServiceDispatch

/-- The key of an operation. -/
structure CanonicalKey where
  /-- The text of the key. -/
  text : String
  deriving DecidableEq, Repr

namespace CanonicalKey

/-- The entry of one parameter: its direction and the normal form of its type. -/
def parameterEntry (parameter : Parameter) : String :=
  parameter.direction.keyword ++ TypeName.normalize parameter.typeName

/-- The key of the operation that a signature describes. -/
def ofSignature (signature : Signature) : CanonicalKey :=
  ⟨TypeName.normalize signature.declaringType ++ "." ++ signature.method ++ "(" ++
    String.intercalate ", " (signature.parameters.map parameterEntry) ++ ")"⟩

end CanonicalKey

/-- The key of an operation. -/
def Signature.key (signature : Signature) : CanonicalKey := CanonicalKey.ofSignature signature

end ServiceDispatch
