import ServiceSpec.Validation

/-!
# Expansion errors

Why a service cannot be expanded, with the wording of each cause.
-/

namespace ServiceSpec

/-- The bodies of an endpoint that name an object. -/
inductive BodyRole where
  | response
  | error
  deriving DecidableEq, Repr

/-- The wording of the role of a body. -/
def BodyRole.text : BodyRole → String
  | response => "response body"
  | error => "error body"

/-- Why a service cannot be expanded. -/
inductive ExpansionError where
  /-- The service breaks structural rules. -/
  | invalid (errors : List ValidationError)
  /-- Types of fields stand for nothing known. -/
  | reference (unresolved : List UnresolvedType)
  /-- A body names an object that does not exist. -/
  | unknownBodyObject (resource endpoint object : String) (role : BodyRole)
  deriving DecidableEq, Repr

/-- The wording of an expansion error. -/
def ExpansionError.message : ExpansionError → String
  | invalid errors => "invalid specification: " ++ ValidationError.summary errors
  | reference unresolved =>
    "unresolved type references: " ++ "; ".intercalate (unresolved.map (·.message))
  | unknownBodyObject resource endpoint object role =>
    "endpoint '" ++ endpoint ++ "' of resource '" ++ resource ++ "' uses unknown object '" ++
      object ++ "' as its " ++ role.text

end ServiceSpec
