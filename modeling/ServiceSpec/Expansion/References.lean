import ServiceSpec.Expansion.Error

/-!
# References of a service

Once a service is complete, every type of a field and every body of an endpoint must name something
that the service declares.

## Main definitions

* `Endpoint.bodyReferences` : the objects that the bodies of an endpoint name.
* `Service.verifyReferences` : the first reference to something that does not exist.
-/

namespace ServiceSpec

/-- The objects that the bodies of an endpoint name: that of its response, then those of errors. -/
def Endpoint.bodyReferences (e : Endpoint) : List (String × BodyRole) :=
  (e.response.bodyObject.toList.map fun o => (o, .response)) ++
    e.errorResponses.map fun r => (r.bodyObject, .error)

namespace Service

/-- The bodies of a service that name an object it does not declare. -/
def unknownBodies (s : Service) : List ExpansionError :=
  s.endpoints.flatMap fun (r, e) =>
    (e.bodyReferences.filter fun b => !s.objectNames.contains b.1).map fun (object, role) =>
      .unknownBodyObject r.name e.name object role

/-- Checks every reference of a service against what it declares: the types first, all of them
together, then the bodies one by one. -/
def verifyReferences (s : Service) : Except ExpansionError Unit :=
  match s.unresolvedTypes (TypeIndex.declared s) with
  | [] =>
    match s.unknownBodies with
    | [] => .ok ()
    | first :: _ => .error first
  | unresolved => .error (.reference unresolved)

end Service

end ServiceSpec
