import WorkflowEditor.Json.Printer
import WorkflowEditor.FieldPath.Pointer
import WorkflowEditor.Issue.Basic

/-!
# Schemas

A schema allows some types of values, requires members of objects, and gives a
schema for named members and for the items of arrays.  What it says about
objects holds for objects only, and what it says about items for arrays only.
`Schema.violations` lists every place of a value that breaks a rule.
-/

namespace WorkflowEditor

/-- A type of JSON values. -/
inductive JsonType where
  | null
  | boolean
  | string
  | array
  | object
  deriving DecidableEq, Repr

namespace JsonType

/-- The name of a type. -/
def name : JsonType → String
  | .null => "null"
  | .boolean => "boolean"
  | .string => "string"
  | .array => "array"
  | .object => "object"

/-- Whether a value has the type. -/
def holds : JsonType → Json → Bool
  | .null, .null => true
  | .boolean, .bool _ => true
  | .string, .string _ => true
  | .array, .array _ => true
  | .object, .object _ => true
  | _, _ => false

end JsonType

/-- A schema for values. -/
inductive Schema where
  /-- The types that are allowed, the members that an object has to have, the
  schemas of its members, and the schema of an array's items. -/
  | rules (types : List JsonType) (required : List String)
      (properties : List (String × Schema)) (items? : Option Schema)
  /-- A schema that has a name among the definitions of its document. -/
  | definition (name : String) (target : Schema)
  deriving Repr, Inhabited

/-- A rule that a place of a value breaks. -/
inductive Violation where
  | wrongType (value : Json) (allowed : List JsonType)
  | missing (name : String)
  deriving DecidableEq, Repr

/-- A name between quotes. -/
def quotedName (name : String) : String := "\"" ++ name ++ "\""

/-- The wording of a violation; types are named in the order of their names. -/
def Violation.message : Violation → String
  | .wrongType value [only] => value.compact ++ " is not of type " ++ quotedName only.name
  | .wrongType value allowed =>
      let names := (allowed.map JsonType.name).mergeSort fun left right => decide (left ≤ right)
      value.compact ++ " is not of types " ++ ", ".intercalate (names.map quotedName)
  | .missing name => quotedName name ++ " is a required property"

namespace Schema

/-- A value of the type. -/
def ofType (type : JsonType) : Schema := .rules [type] [] [] none

/-- A value of the type, or null. -/
def nullable (type : JsonType) : Schema := .rules [type, .null] [] [] none

/-- An object with required members and schemas for members. -/
def record (required : List String) (properties : List (String × Schema)) : Schema :=
  .rules [.object] required properties none

/-- An array whose items follow the schema. -/
def listOf (items : Schema) : Schema := .rules [.array] [] [] (some items)

/-! ## Checking -/

/-- The violation of the type rule. -/
def typeViolations (types : List JsonType) (path : FieldPath) (value : Json) :
    List (FieldPath × Violation) :=
  if types.any (·.holds value) then [] else [(path, .wrongType value types)]

/-- The members that an object lacks. -/
def missingMembers (required : List String) (path : FieldPath) (value : Json) :
    List (FieldPath × Violation) :=
  match value with
  | .object members =>
      (required.filter fun name => (Keyed.find? name members).isNone).map fun name =>
        (path, .missing name)
  | _ => []

mutual

/-- Every violation of the schema in a value at a path. -/
def violations : Schema → FieldPath → Json → List (FieldPath × Violation)
  | .rules types required properties items?, path, value =>
      typeViolations types path value ++ missingMembers required path value ++
        propertyViolations properties path value ++ itemViolations items? path value
  | .definition _ target, path, value => violations target path value

/-- Every violation of a member's schema. -/
def propertyViolations : List (String × Schema) → FieldPath → Json → List (FieldPath × Violation)
  | [], _, _ => []
  | (name, schema) :: rest, path, value =>
      (match value.member? name with
        | some member => violations schema (path.key name) member
        | none => []) ++
      propertyViolations rest path value

/-- Every violation of the schema of items. -/
def itemViolations : Option Schema → FieldPath → Json → List (FieldPath × Violation)
  | none, _, _ => []
  | some schema, path, value =>
      match value with
      | .array items =>
          items.zipIdx.flatMap fun (item, position) =>
            violations schema (path.index position) item
      | _ => []

end

/-- The issues of a value, one for each violation.  The place of a violation is
handed over as a pointer and read back from it. -/
def check (schema : Schema) (value : Json) : List Issue :=
  Issue.sort <| (schema.violations .root value).map fun (path, violation) =>
    .error "schema_error" (.ofPointer path.toPointer) violation.message "json_schema.validation"

/-! ## JSON -/

/-- The name of a type, or the list of several. -/
def typesJson : List JsonType → Json
  | [only] => .string only.name
  | types => .array (types.map fun type => .string type.name)

mutual

/-- The members of a schema's JSON form. -/
def members : Schema → Json.Members
  | .rules types required properties items? =>
      [("type", typesJson types)] ++
      (if required.isEmpty then [] else [("required", .array (required.map .string))]) ++
      (if properties.isEmpty then [] else [("properties", .record (propertyMembers properties))]) ++
      itemMembers items?
  | .definition name _ => [("$ref", .string ("#/definitions/" ++ name))]

/-- The JSON forms of members' schemas. -/
def propertyMembers : List (String × Schema) → Json.Members
  | [] => []
  | (name, schema) :: rest => (name, .record (members schema)) :: propertyMembers rest

/-- The JSON form of the schema of items. -/
def itemMembers : Option Schema → Json.Members
  | none => []
  | some schema => [("items", .record (members schema))]

end

end Schema

/-- A schema with its name, its dialect and its definitions. -/
structure SchemaDocument where
  dialect : String
  id : String
  title : String
  root : Schema
  definitions : List (String × Schema)
  deriving Repr

/-- A schema document as JSON. -/
def SchemaDocument.toJson (document : SchemaDocument) : Json :=
  .record <|
    [("$schema", .string document.dialect),
     ("$id", .string document.id),
     ("title", .string document.title),
     ("definitions", .record (Schema.propertyMembers document.definitions))] ++
    document.root.members

end WorkflowEditor
