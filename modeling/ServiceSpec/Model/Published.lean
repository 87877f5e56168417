/-!
# Published descriptions

The descriptions that the published schema carries, one for each definition.
-/

namespace ServiceSpec.Published

/-- The description of a service. -/
def service : String :=
  "Root of a specification.\n\n## Examples\n\n```\n" ++
    "use blueprint_define::\x7bObject, Service\x7d;\n\n" ++
    "let mut service = Service::new(\"School API\", \"1.0.0\");\n" ++
    "service.objects.push(Object::new(\"Address\"));\n\n" ++
    "assert!(service.has_object(\"Address\"));\n" ++
    "assert!(service.find_enum(\"Address\").is_none());\n```"

/-- The description of a server. -/
def server : String :=
  "A server the API is reachable at."

/-- The description of an enum. -/
def enumeration : String :=
  "A named set of string values."

/-- The description of an object. -/
def object : String :=
  "A reusable structural type.\n\n" ++
    "Field order is significant: it is preserved by every transformation and\n" ++
    "drives the order of properties in rendered output."

/-- The description of a field. -/
def field : String :=
  "A named, typed field.\n\n## Required fields\n\n" ++
    "A field is required iff it is not [`Modifier::Nullable`] and has no\n" ++
    "(non-empty) default value.\n\n## Examples\n\n```\n" ++
    "use blueprint_define::\x7bField, Modifier, Primitive, TypeRef\x7d;\n\n" ++
    "let name = Field::new(\"firstName\", TypeRef::Primitive(Primitive::String));\n" ++
    "assert!(name.is_required());\n\n" ++
    "let nickname = Field::new(\"nickname\", TypeRef::Primitive(Primitive::String))\n" ++
    "    .with_modifier(Modifier::Nullable);\nassert!(!nickname.is_required());\n\n" ++
    "let limit = Field::new(\"limit\", TypeRef::Primitive(Primitive::Int)).with_default(\"50\");\n" ++
    "assert!(!limit.is_required());\n```"

/-- The description of a type name. -/
def typeName : String :=
  "A primitive type (UUID, String, Int, Bool, Date, Timestamp) or the name of an object or " ++
    "enum declared in the same service"

/-- The description of a modifier. -/
def modifier : String :=
  "Field modifiers."

/-- The description of a resource. -/
def resource : String :=
  "An API resource with CRUD operations.\n\n## Examples\n\n```\n" ++
    "use blueprint_define::\x7bOperation, Resource\x7d;\n\n" ++
    "let resource = Resource::new(\"StudentGroup\", [Operation::Read]);\n" ++
    "assert_eq!(resource.collection_path(), \"/student-groups\");\n" ++
    "assert!(resource.has_operation(Operation::Read));\n" ++
    "assert!(!resource.has_operation(Operation::Delete));\n```"

/-- The description of an operation. -/
def operation : String :=
  "CRUD operations.\n\n" ++
    "Names are exact PascalCase: `\"create\"` is rejected at parse time.\n\n## Examples\n\n" ++
    "```\nuse std::str::FromStr;\nuse blueprint_define::Operation;\n\n" ++
    "assert_eq!(Operation::from_str(\"Read\").unwrap(), Operation::Read);\n" ++
    "assert!(Operation::from_str(\"read\").is_err());\n```"

/-- The description of a field of a resource. -/
def resourceField : String :=
  "A resource field: a [`Field`] plus the operations it participates in.\n\n" ++
    "Serialized flat, so a resource field looks like a field with an extra\n" ++
    "`operations` key."

/-- The description of an endpoint. -/
def endpoint : String :=
  "A single API endpoint.\n\n## Examples\n\n```\n" ++
    "use blueprint_define::\x7bEndpoint, EndpointResponse, HttpMethod\x7d;\n\n" ++
    "let endpoint = Endpoint::new(\"Archive\", HttpMethod::Post, \"/\x7bid\x7d/archive\")\n" ++
    "    .with_response(EndpointResponse::object(200, \"Students\"));\n\n" ++
    "assert_eq!(endpoint.response.status_code, 200);\nassert!(!endpoint.has_body());\n```"

/-- The description of a method. -/
def method : String :=
  "HTTP methods supported by endpoints.\n\nSerialized and displayed in uppercase.\n\n" ++
    "```\nuse blueprint_define::HttpMethod;\n\n" ++
    "assert_eq!(HttpMethod::Patch.to_string(), \"PATCH\");\n" ++
    "assert_eq!(HttpMethod::Patch.as_lowercase(), \"patch\");\n```"

/-- The description of a request. -/
def request : String :=
  "Request shape of an endpoint."

/-- The description of a response. -/
def response : String :=
  "Success response shape of an endpoint.\n\n" ++
    "A response either references a named object (`body_object`) or describes\n" ++
    "an inline body (`body_fields`), never both."

/-- The description of an error response. -/
def errorResponse : String :=
  "A standard error response attached to an endpoint."

end ServiceSpec.Published
