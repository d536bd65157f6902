import AccessRules.Schema.Assertion

/-!
The schema of schemas (draft 7) as a value. The order of its keys is the order in which faults of a
schema are found.
-/

namespace AccessRules

namespace MetaSchema

def reference (target : String) : Json := .obj [("$ref", .str target)]

def schema : Json := reference "#"

def typed (name : String) : Json := .obj [("type", .str name)]

def formatted (format : String) : Json := .obj [("type", .str "string"), ("format", .str format)]

def flag : Json := .obj [("type", .str "boolean"), ("default", .bool false)]

def count : Json := reference "#/definitions/nonNegativeInteger"

def countOrZero : Json := reference "#/definitions/nonNegativeIntegerDefault0"

def schemaArray : Json := reference "#/definitions/schemaArray"

def stringArray : Json := reference "#/definitions/stringArray"

def simpleTypes : Json := reference "#/definitions/simpleTypes"

def anyArray : Json := .obj [("type", .str "array"), ("items", .bool true)]

def schemaMap : Json :=
  .obj [("type", .str "object"), ("additionalProperties", schema), ("default", .obj [])]

def definitions : Json := .obj [
  ("schemaArray", .obj [
    ("type", .str "array"), ("minItems", Json.int 1), ("items", schema)]),
  ("nonNegativeInteger", .obj [("type", .str "integer"), ("minimum", Json.int 0)]),
  ("nonNegativeIntegerDefault0", .obj [
    ("allOf", .arr [count, .obj [("default", Json.int 0)]])]),
  ("simpleTypes", .obj [("enum", .arr (ValueType.all.map fun t => .str t.key))]),
  ("stringArray", .obj [
    ("type", .str "array"), ("items", typed "string"), ("uniqueItems", .bool true),
    ("default", .arr [])])]

def properties : Json := .obj [
  ("$id", formatted "uri-reference"),
  ("$schema", formatted "uri"),
  ("$ref", formatted "uri-reference"),
  ("$comment", typed "string"),
  ("title", typed "string"),
  ("description", typed "string"),
  ("default", .bool true),
  ("readOnly", flag),
  ("writeOnly", flag),
  ("examples", anyArray),
  ("multipleOf", .obj [("type", .str "number"), ("exclusiveMinimum", Json.int 0)]),
  ("maximum", typed "number"),
  ("exclusiveMaximum", typed "number"),
  ("minimum", typed "number"),
  ("exclusiveMinimum", typed "number"),
  ("maxLength", count),
  ("minLength", countOrZero),
  ("pattern", formatted "regex"),
  ("additionalItems", schema),
  ("items", .obj [("anyOf", .arr [schema, schemaArray]), ("default", .bool true)]),
  ("maxItems", count),
  ("minItems", countOrZero),
  ("uniqueItems", flag),
  ("contains", schema),
  ("maxProperties", count),
  ("minProperties", countOrZero),
  ("required", stringArray),
  ("additionalProperties", schema),
  ("definitions", schemaMap),
  ("properties", schemaMap),
  ("patternProperties", .obj [
    ("type", .str "object"), ("additionalProperties", schema),
    ("propertyNames", .obj [("format", .str "regex")]), ("default", .obj [])]),
  ("dependencies", .obj [
    ("type", .str "object"),
    ("additionalProperties", .obj [("anyOf", .arr [schema, stringArray])])]),
  ("propertyNames", schema),
  ("const", .bool true),
  ("enum", anyArray),
  ("type", .obj [("anyOf", .arr [
    simpleTypes,
    .obj [("type", .str "array"), ("items", simpleTypes), ("minItems", Json.int 1),
      ("uniqueItems", .bool true)]])]),
  ("format", typed "string"),
  ("contentMediaType", typed "string"),
  ("contentEncoding", typed "string"),
  ("if", schema),
  ("then", schema),
  ("else", schema),
  ("allOf", schemaArray),
  ("anyOf", schemaArray),
  ("oneOf", schemaArray),
  ("not", schema)]

def documentAddress : String := "http://json-schema.org/draft-07/schema"

def address : String := documentAddress ++ "#"

def json : Json := .obj [
  ("$schema", .str address),
  ("$id", .str address),
  ("title", .str "Core schema meta-schema"),
  ("definitions", definitions),
  ("type", .arr [.str "object", .str "boolean"]),
  ("properties", properties),
  ("default", .bool true)]

end MetaSchema

end AccessRules
