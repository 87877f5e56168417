import ServiceSpec.Standard.Names
import ServiceSpec.Validation

/-!
# Filter objects

Six objects are derived from each object to search for its values: one for each kind of condition,
and one that combines them.  Every condition may be left out.

## Main definitions

* `Condition` : the kinds of conditions, with the fields each applies to.
* `Object.filters` : the six objects derived from an object.
* `Service.filterNameViolations` : objects in the place of a filter of another shape.
* `Service.withFilters` : a service with the filters of its objects.
-/

namespace ServiceSpec

/-- The kinds of conditions on a field. -/
inductive Condition where
  | equals
  | range
  | contains
  | like
  | null
  deriving DecidableEq, Repr

namespace Condition

/-- Every kind, in the order of the derived objects. -/
def all : List Condition :=
  [equals, range, contains, like, null]

/-- The word for a kind of condition. -/
def word : Condition → String
  | equals => "Equals"
  | range => "Range"
  | contains => "Contains"
  | like => "Like"
  | null => "Null"

/-- The name of the object that holds the conditions of this kind. -/
def objectName (k : Condition) (object : String) : String :=
  object ++ "Filter" ++ k.word

/-- The fields of the combining filter that hold conditions of this kind, with descriptions. -/
def operators : Condition → List (String × String)
  | equals =>
    [("equals", "Fields that must equal the given values"),
     ("notEquals", "Fields that must differ from the given values")]
  | range =>
    [("greaterThan", "Fields that must be greater than the given values"),
     ("smallerThan", "Fields that must be smaller than the given values"),
     ("greaterOrEqual", "Fields that must be greater than or equal to the given values"),
     ("smallerOrEqual", "Fields that must be smaller than or equal to the given values")]
  | contains =>
    [("contains", "Fields that must contain the given values"),
     ("notContains", "Fields that must not contain the given values")]
  | like =>
    [("like", "Fields that must match the given patterns"),
     ("notLike", "Fields that must not match the given patterns")]
  | null =>
    [("null", "Fields that must be null"),
     ("notNull", "Fields that must not be null")]

/-- Whether a field can be given a condition of this kind. -/
def applies (f : Field) : Condition → Bool
  | equals => true
  | range => !f.isArray && f.type.isOrdered
  | contains => f.isContainable
  | like => !f.isArray && f.type.isText
  | null => f.isNullable

/-- The type of the value a condition is made with. -/
def valueType (f : Field) : Condition → TypeRef
  | null => .primitive .bool
  | _ => f.type

/-- Whether a condition is made with a list of values. -/
def takesList (f : Field) : Condition → Bool
  | equals => f.isArray
  | contains => true
  | _ => false

/-- The condition on a field. -/
def project (k : Condition) (f : Field) : Field where
  name := f.name
  description := f.description
  type := k.valueType f
  modifiers := if k.takesList f then [.array, .nullable] else [.nullable]

/-- The object that holds the conditions of this kind on an object. -/
def build (k : Condition) (o : Object) : Object where
  name := k.objectName o.name
  description := k.word ++ " conditions on " ++ o.name
  fields := (o.fields.filter fun f => k.applies f).map k.project

/-- The fields of the combining filter that hold conditions of this kind. -/
def operatorFields (k : Condition) (object : String) : List Field :=
  k.operators.map fun (name, description) =>
    { name
      description
      type := .object (k.objectName object)
      modifiers := [.nullable] }

end Condition

/-- The filter that combines conditions, and filters nested in it. -/
def combinedFilter (object : String) : Object where
  name := Standard.filterName object
  description := "Search filter for " ++ object
  fields :=
    Condition.all.flatMap (·.operatorFields object) ++
      [{ name := "orCondition"
         type := .primitive .bool
         description := "Combine the conditions with OR instead of AND" },
       { name := "nestedFilters"
         type := .object (Standard.filterName object)
         description := "Filters evaluated as nested groups"
         modifiers := [.array] }]

/-- The six filter objects of an object, in order. -/
def Object.filters (o : Object) : List Object :=
  combinedFilter o.name :: Condition.all.map (·.build o)

namespace Service

/-- The objects of the service that stand in the place of a filter, with another shape. -/
def filterNameViolations (s : Service) : List ValidationError :=
  s.objects.flatMap fun owner =>
    owner.filters.filterMap fun derived =>
      match s.findObject? derived.name with
      | some existing =>
        if existing = derived then none else some (.filterNameClash derived.name owner.name)
      | none => none

/-- Checks that no object stands in the place of a filter of another shape. -/
def checkFilterNames (s : Service) : Except (List ValidationError) Unit :=
  if s.filterNameViolations.isEmpty then .ok () else .error s.filterNameViolations

end Service

/-- The filters of a list of objects whose names are not yet `taken`.  An object whose name is among
`derived`, the filter names of objects before it, gets none. -/
def missingFilters (taken derived : List String) : List Object → List Object
  | [] => []
  | o :: rest =>
    if derived.contains o.name then missingFilters taken derived rest
    else
      let added := o.filters.filter fun f => !taken.contains f.name
      added ++ missingFilters (added.map (·.name) ++ taken)
        (Standard.filterNames o.name ++ derived) rest

/-- The service with the filters of its objects.  Objects that are filters of an earlier object get
none, and filters that exist already are kept. -/
def Service.withFilters (s : Service) : Service :=
  { s with objects := s.objects ++ missingFilters s.objectNames [] s.objects }

end ServiceSpec
