import SeriesClient.Json.Basic

/-! The documents that define the drafts of JSON Schema, which any schema may refer to: what they say,
without their titles and comments. -/

namespace SeriesClient.Schema.Metaschema

def text (s : String) : Json := .string s

def empty : Json := .object []

def ref (place : String) : Json := .object [("$ref", text place)]

def ofType (name : String) : Json := .object [("type", text name)]

def withDefault (schema value : Json) : Json :=
  match schema with
  | .object members => .object (members ++ [("default", value)])
  | other => other

def deprecated (schema : Json) : Json :=
  match schema with
  | .object members => .object (members ++ [("deprecated", .bool true)])
  | other => other

def ofFormat (name : String) : Json :=
  .object [("type", text "string"), ("format", text name)]

def switchedOff : Json := withDefault (ofType "boolean") (.bool false)

def anyOf (schemas : List Json) : Json := .object [("anyOf", .array schemas)]

def atLeast (n : Int) : Json := .object [("type", text "integer"), ("minimum", Json.ofInt n)]

def above (n : Int) : Json := .object [("type", text "number"), ("exclusiveMinimum", Json.ofInt n)]

def manyOf (schema : Json) : Json :=
  .object [("type", text "array"), ("minItems", Json.ofInt 1), ("items", schema)]

def distinct (schema : Json) : Json :=
  .object [("type", text "array"), ("items", schema), ("uniqueItems", .bool true)]

def distinctNonempty (schema : Json) : Json :=
  .object [("type", text "array"), ("items", schema), ("minItems", Json.ofInt 1),
    ("uniqueItems", .bool true)]

def mapOf (schema : Json) : Json :=
  .object [("type", text "object"), ("additionalProperties", schema)]

def namedByPatterns (schema : Json) : Json :=
  .object [("type", text "object"), ("additionalProperties", schema),
    ("propertyNames", .object [("format", text "regex")])]

def schemaOrFlag : Json := .array [text "object", text "boolean"]

def typeNames : Json :=
  .object [("enum", .array (["array", "boolean", "integer", "null", "number", "object",
    "string"].map text))]

def typeOrTypes (place : String) : Json := anyOf [ref place, distinctNonempty (ref place)]

def each (names : List String) (schema : Json) : Json.Members := names.map (·, schema)

def draft4 : Json :=
  let here := ref "#"
  let count := ref "#/definitions/positiveInteger"
  let countOrZero := ref "#/definitions/positiveIntegerDefault0"
  let schemas := ref "#/definitions/schemaArray"
  let schemaOrNot := withDefault (anyOf [ofType "boolean", here]) empty
  .object [
    ("$schema", text "http://json-schema.org/draft-04/schema#"),
    ("id", text "http://json-schema.org/draft-04/schema#"),
    ("default", empty),
    ("definitions", .object [
      ("positiveInteger", atLeast 0),
      ("positiveIntegerDefault0", .object [("allOf", .array [count, withDefault empty (Json.ofInt 0)])]),
      ("schemaArray", manyOf here),
      ("simpleTypes", typeNames),
      ("stringArray", distinctNonempty (ofType "string"))]),
    ("dependencies", .object [
      ("exclusiveMaximum", .array [text "maximum"]),
      ("exclusiveMinimum", .array [text "minimum"])]),
    ("properties", .object (
      each ["$schema", "id", "title", "description", "format"] (ofType "string") ++
      each ["maximum", "minimum"] (ofType "number") ++
      each ["exclusiveMaximum", "exclusiveMinimum"] (ofType "boolean") ++
      each ["maxItems", "maxLength", "maxProperties"] count ++
      each ["minItems", "minLength", "minProperties"] countOrZero ++
      each ["allOf", "anyOf", "oneOf"] schemas ++
      each ["additionalItems", "additionalProperties"] schemaOrNot ++
      each ["definitions", "patternProperties", "properties"] (withDefault (mapOf here) empty) ++ [
      ("default", empty),
      ("dependencies", mapOf (anyOf [here, ref "#/definitions/stringArray"])),
      ("enum", ofType "array"),
      ("items", withDefault (anyOf [here, schemas]) empty),
      ("multipleOf", .object [("type", text "number"), ("minimum", Json.ofInt 0),
        ("exclusiveMinimum", .bool true)]),
      ("not", here),
      ("pattern", ofFormat "regex"),
      ("required", ref "#/definitions/stringArray"),
      ("type", typeOrTypes "#/definitions/simpleTypes"),
      ("uniqueItems", switchedOff)])),
    ("type", text "object")]

/-- What drafts 6 and 7 have in common. `anything` is how the draft writes a schema for all values. -/
def middleDraft (place : String) (anything : Json) (patterns : Json) (more : Json.Members) : Json :=
  let here := ref "#"
  let count := ref "#/definitions/nonNegativeInteger"
  let countOrZero := ref "#/definitions/nonNegativeIntegerDefault0"
  let schemas := ref "#/definitions/schemaArray"
  .object [
    ("$schema", text place),
    ("$id", text place),
    ("default", anything),
    ("definitions", .object [
      ("nonNegativeInteger", atLeast 0),
      ("nonNegativeIntegerDefault0",
        .object [("allOf", .array [count, withDefault empty (Json.ofInt 0)])]),
      ("schemaArray", manyOf here),
      ("simpleTypes", typeNames),
      ("stringArray", withDefault (distinct (ofType "string")) (.array []))]),
    ("properties", .object (
      each ["$id", "$ref"] (ofFormat "uri-reference") ++
      each ["title", "description", "format"] (ofType "string") ++
      each ["maximum", "minimum", "exclusiveMaximum", "exclusiveMinimum"] (ofType "number") ++
      each ["maxItems", "maxLength", "maxProperties"] count ++
      each ["minItems", "minLength", "minProperties"] countOrZero ++
      each ["allOf", "anyOf", "oneOf"] schemas ++
      each ["additionalItems", "additionalProperties", "contains", "not", "propertyNames"] here ++
      each ["definitions", "properties"] (withDefault (mapOf here) empty) ++ [
      ("$schema", ofFormat "uri"),
      ("const", anything),
      ("default", anything),
      ("dependencies", mapOf (anyOf [here, ref "#/definitions/stringArray"])),
      ("enum", .object [("type", text "array"), ("items", anything)]),
      ("examples", .object [("type", text "array"), ("items", anything)]),
      ("items", withDefault (anyOf [here, schemas]) anything),
      ("multipleOf", above 0),
      ("pattern", ofFormat "regex"),
      ("patternProperties", withDefault patterns empty),
      ("required", ref "#/definitions/stringArray"),
      ("type", typeOrTypes "#/definitions/simpleTypes"),
      ("uniqueItems", switchedOff)] ++ more)),
    ("type", schemaOrFlag)]

def draft6 : Json :=
  middleDraft "http://json-schema.org/draft-06/schema#" empty (mapOf (ref "#")) []

def draft7 : Json :=
  middleDraft "http://json-schema.org/draft-07/schema#" (.bool true) (namedByPatterns (ref "#")) (
    each ["$comment", "contentEncoding", "contentMediaType"] (ofType "string") ++
    each ["if", "then", "else"] (ref "#") ++ [("readOnly", switchedOff), ("writeOnly", switchedOff)])

/-- The vocabularies that a draft of 2019 or 2020 is made of, each with a document of its own. -/
def vocabularies (place : String) (names : List (String × Bool)) : String × Json :=
  ("$vocabulary", .object (names.map fun (name, needed) => (place ++ "vocab/" ++ name, .bool needed)))

def allOf (places : List String) : String × Json := ("allOf", .array (places.map ref))

/-- The place of the documents of 2019. -/
def place2019 : String := "https://json-schema.org/draft/2019-09/"

/-- The place of the documents of 2020. -/
def place2020 : String := "https://json-schema.org/draft/2020-12/"

def document2019 (name : String) (members : Json.Members) : Json :=
  .object ([("$schema", text (place2019 ++ "schema")), ("$id", text (place2019 ++ name)),
    ("$recursiveAnchor", .bool true), ("type", schemaOrFlag)] ++ members)

def document2020 (name : String) (members : Json.Members) : Json :=
  .object ([("$schema", text (place2020 ++ "schema")), ("$id", text (place2020 ++ name)),
    ("$dynamicAnchor", text "meta"), ("type", schemaOrFlag)] ++ members)

def again2019 : Json := .object [("$recursiveRef", text "#")]

def again2020 : Json := .object [("$dynamicRef", text "#meta")]

/-- Keywords that apply schemas, common to both years. -/
def applying (again : Json) : Json.Members :=
  each ["contains", "additionalProperties", "propertyNames", "if", "then", "else", "not"] again ++
  each ["allOf", "anyOf", "oneOf"] (ref "#/$defs/schemaArray") ++ [
  ("properties", withDefault (mapOf again) empty),
  ("patternProperties", withDefault (namedByPatterns again) empty)]

def schemaArray (again : Json) : String × Json := ("$defs", .object [("schemaArray", manyOf again)])

def validating : Json.Members := [
  ("$defs", .object [
    ("nonNegativeInteger", atLeast 0),
    ("nonNegativeIntegerDefault0", withDefault (ref "#/$defs/nonNegativeInteger") (Json.ofInt 0)),
    ("simpleTypes", typeNames),
    ("stringArray", withDefault (distinct (ofType "string")) (.array []))]),
  ("properties", .object (
    each ["maximum", "minimum", "exclusiveMaximum", "exclusiveMinimum"] (ofType "number") ++
    each ["maxItems", "maxLength", "maxProperties", "maxContains"] (ref "#/$defs/nonNegativeInteger") ++
    each ["minItems", "minLength", "minProperties"] (ref "#/$defs/nonNegativeIntegerDefault0") ++ [
    ("const", .bool true),
    ("dependentRequired", mapOf (ref "#/$defs/stringArray")),
    ("enum", .object [("type", text "array"), ("items", .bool true)]),
    ("minContains", withDefault (ref "#/$defs/nonNegativeInteger") (Json.ofInt 1)),
    ("multipleOf", above 0),
    ("pattern", ofFormat "regex"),
    ("required", ref "#/$defs/stringArray"),
    ("type", typeOrTypes "#/$defs/simpleTypes"),
    ("uniqueItems", switchedOff)]))]

def describing : Json.Members := [
  ("properties", .object (
    each ["title", "description"] (ofType "string") ++
    each ["deprecated", "readOnly", "writeOnly"] switchedOff ++ [
    ("default", .bool true),
    ("examples", .object [("type", text "array"), ("items", .bool true)])]))]

def holding (again : Json) : Json.Members := [
  ("properties", .object (each ["contentEncoding", "contentMediaType"] (ofType "string") ++
    [("contentSchema", again)]))]

def formats : Json.Members := [("properties", .object [("format", ofType "string")])]

def documents2019 : List (String × Json) := [
  ("schema", document2019 "schema" [
    vocabularies place2019 [("core", true), ("applicator", true), ("validation", true),
      ("meta-data", true), ("format", false), ("content", true)],
    allOf ["meta/core", "meta/applicator", "meta/validation", "meta/meta-data", "meta/format",
      "meta/content"],
    ("properties", .object [
      ("definitions", withDefault (mapOf again2019) empty),
      ("dependencies", mapOf (anyOf [again2019, ref "meta/validation#/$defs/stringArray"]))])]),
  ("meta/core", document2019 "meta/core" [
    vocabularies place2019 [("core", true)],
    ("properties", .object (each ["$ref", "$recursiveRef"] (ofFormat "uri-reference") ++ [
      ("$anchor", .object [("type", text "string"),
        ("pattern", text "^[A-Za-z][-A-Za-z0-9.:_]*$")]),
      ("$comment", ofType "string"),
      ("$defs", withDefault (mapOf again2019) empty),
      ("$id", .object [("type", text "string"), ("format", text "uri-reference"),
        ("pattern", text "^[^#]*#?$")]),
      ("$recursiveAnchor", switchedOff),
      ("$schema", ofFormat "uri"),
      ("$vocabulary", .object [("type", text "object"), ("propertyNames", ofFormat "uri"),
        ("additionalProperties", ofType "boolean")])]))]),
  ("meta/applicator", document2019 "meta/applicator" [
    vocabularies place2019 [("applicator", true)],
    ("properties", .object (applying again2019 ++
      each ["additionalItems", "unevaluatedItems", "unevaluatedProperties"] again2019 ++ [
      ("dependentSchemas", mapOf again2019),
      ("items", anyOf [again2019, ref "#/$defs/schemaArray"])])),
    schemaArray again2019]),
  ("meta/validation", document2019 "meta/validation"
    (vocabularies place2019 [("validation", true)] :: validating)),
  ("meta/meta-data", document2019 "meta/meta-data"
    (vocabularies place2019 [("meta-data", true)] :: describing)),
  ("meta/format", document2019 "meta/format"
    (vocabularies place2019 [("format", true)] :: formats)),
  ("meta/content", document2019 "meta/content"
    (vocabularies place2019 [("content", true)] :: holding again2019))]

def documents2020 : List (String × Json) := [
  ("schema", document2020 "schema" [
    vocabularies place2020 [("core", true), ("applicator", true), ("unevaluated", true),
      ("validation", true), ("meta-data", true), ("format-annotation", true), ("content", true)],
    allOf ["meta/core", "meta/applicator", "meta/unevaluated", "meta/validation", "meta/meta-data",
      "meta/format-annotation", "meta/content"],
    ("properties", .object [
      ("$recursiveAnchor", deprecated (ref "meta/core#/$defs/anchorString")),
      ("$recursiveRef", deprecated (ref "meta/core#/$defs/uriReferenceString")),
      ("definitions", withDefault (deprecated (mapOf again2020)) empty),
      ("dependencies", withDefault
        (deprecated (mapOf (anyOf [again2020, ref "meta/validation#/$defs/stringArray"]))) empty)])]),
  ("meta/core", document2020 "meta/core" [
    vocabularies place2020 [("core", true)],
    ("$defs", .object [
      ("anchorString", .object [("type", text "string"),
        ("pattern", text "^[A-Za-z_][-A-Za-z0-9._]*$")]),
      ("uriString", ofFormat "uri"),
      ("uriReferenceString", ofFormat "uri-reference")]),
    ("properties", .object (
      each ["$ref", "$dynamicRef"] (ref "#/$defs/uriReferenceString") ++
      each ["$anchor", "$dynamicAnchor"] (ref "#/$defs/anchorString") ++ [
      ("$comment", ofType "string"),
      ("$defs", mapOf again2020),
      ("$id", .object [("$ref", text "#/$defs/uriReferenceString"), ("pattern", text "^[^#]*#?$")]),
      ("$schema", ref "#/$defs/uriString"),
      ("$vocabulary", .object [("type", text "object"), ("propertyNames", ref "#/$defs/uriString"),
        ("additionalProperties", ofType "boolean")])]))]),
  ("meta/applicator", document2020 "meta/applicator" [
    vocabularies place2020 [("applicator", true)],
    ("properties", .object (applying again2020 ++ [
      ("dependentSchemas", withDefault (mapOf again2020) empty),
      ("items", again2020),
      ("prefixItems", ref "#/$defs/schemaArray")])),
    schemaArray again2020]),
  ("meta/unevaluated", document2020 "meta/unevaluated" [
    vocabularies place2020 [("unevaluated", true)],
    ("properties", .object (each ["unevaluatedItems", "unevaluatedProperties"] again2020))]),
  ("meta/validation", document2020 "meta/validation"
    (vocabularies place2020 [("validation", true)] :: validating)),
  ("meta/meta-data", document2020 "meta/meta-data"
    (vocabularies place2020 [("meta-data", true)] :: describing)),
  ("meta/format-annotation", document2020 "meta/format-annotation"
    (vocabularies place2020 [("format-annotation", true)] :: formats)),
  ("meta/content", document2020 "meta/content"
    (vocabularies place2020 [("content", true)] :: holding again2020))]

/-- The documents by their places. -/
def documents : List (String × Json) :=
  [("http://json-schema.org/draft-04/schema", draft4),
    ("http://json-schema.org/draft-06/schema", draft6),
    ("http://json-schema.org/draft-07/schema", draft7)] ++
  documents2019.map (fun (name, schema) => (place2019 ++ name, schema)) ++
  documents2020.map (fun (name, schema) => (place2020 ++ name, schema))

end SeriesClient.Schema.Metaschema
