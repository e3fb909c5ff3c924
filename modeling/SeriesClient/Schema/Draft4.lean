import SeriesClient.Json.Basic
import SeriesClient.Schema.Pattern

/-! Which documents have the form of a JSON Schema of draft 4: every keyword of the draft has a value
of its kind, and what it does not know is left alone. -/

namespace SeriesClient.Schema

/-- What a keyword wants for its value. -/
inductive Want where
  | text
  | pattern
  | number
  | positive
  | count
  | flag
  | list
  | names
  | types
  | schema
  | schemaOrFlag
  | schemaOrSchemas
  | schemas
  | schemaMap
  | dependencies
  | anything
  deriving DecidableEq

def wants : List (String × Want) := [
  ("id", .text), ("$schema", .text), ("title", .text), ("description", .text), ("format", .text),
  ("pattern", .pattern), ("multipleOf", .positive), ("maximum", .number), ("minimum", .number),
  ("exclusiveMaximum", .flag), ("exclusiveMinimum", .flag), ("uniqueItems", .flag),
  ("maxLength", .count), ("minLength", .count), ("maxItems", .count), ("minItems", .count),
  ("maxProperties", .count), ("minProperties", .count), ("enum", .list), ("required", .names),
  ("type", .types), ("not", .schema), ("additionalItems", .schemaOrFlag),
  ("additionalProperties", .schemaOrFlag), ("items", .schemaOrSchemas), ("allOf", .schemas),
  ("anyOf", .schemas), ("oneOf", .schemas), ("definitions", .schemaMap), ("properties", .schemaMap),
  ("patternProperties", .schemaMap), ("dependencies", .dependencies)]

def wantOf (keyword : String) : Want := ((wants.find? (·.1 == keyword)).map (·.2)).getD .anything

def typeNames : List String := ["array", "boolean", "integer", "null", "number", "object", "string"]

def isText : Json → Bool
  | .string _ => true
  | _ => false

def isTypeName : Json → Bool
  | .string s => typeNames.contains s
  | _ => false

def allDistinct : List Json → Bool
  | [] => true
  | item :: rest => !rest.any (· == item) && allDistinct rest

/-- One or more names, each once. -/
def isNameList : Json → Bool
  | .array items => !items.isEmpty && items.all isText && allDistinct items
  | _ => false

def isTypes : Json → Bool
  | .array items => !items.isEmpty && items.all isTypeName && allDistinct items
  | other => isTypeName other

def isNumber : Json → Bool
  | .number _ => true
  | _ => false

def isPositive : Json → Bool
  | .number (.integer n _) => 0 < n
  | .number (.real x _) => 0.0 < x
  | _ => false

/-- Only what is written as an integer counts as one. -/
def isCount : Json → Bool
  | .number (.integer n _) => 0 ≤ n
  | _ => false

def isPatternText : Json → Bool
  | .string s => Pattern.isValid s
  | _ => false

def isFlag : Json → Bool
  | .bool _ => true
  | _ => false

def isList : Json → Bool
  | .array _ => true
  | _ => false

def has (keyword : String) (members : Json.Members) : Bool := members.any (·.1 == keyword)

/-- An exclusive bound is no bound without the number it goes with. -/
def boundsComplete (members : Json.Members) : Bool :=
  (!has "exclusiveMaximum" members || has "maximum" members) &&
    (!has "exclusiveMinimum" members || has "minimum" members)

mutual

def conforms : Json → Bool
  | .object members => boundsComplete members && membersConform members
  | _ => false

def membersConform : Json.Members → Bool
  | [] => true
  | (keyword, value) :: rest =>
    (match wantOf keyword with
      | .text => isText value
      | .pattern => isPatternText value
      | .number => isNumber value
      | .positive => isPositive value
      | .count => isCount value
      | .flag => isFlag value
      | .list => isList value
      | .names => isNameList value
      | .types => isTypes value
      | .schema => conforms value
      | .schemaOrFlag => isFlag value || conforms value
      | .schemaOrSchemas => conforms value || schemas value
      | .schemas => schemas value
      | .schemaMap => schemaMap value
      | .dependencies => dependencies value
      | .anything => true) && membersConform rest

/-- One or more schemas. -/
def schemas : Json → Bool
  | .array (first :: rest) => conforms first && allConform rest
  | _ => false

def allConform : List Json → Bool
  | [] => true
  | item :: rest => conforms item && allConform rest

/-- Schemas by name. -/
def schemaMap : Json → Bool
  | .object members => valuesConform members
  | _ => false

def valuesConform : Json.Members → Bool
  | [] => true
  | (_, value) :: rest => conforms value && valuesConform rest

def dependencies : Json → Bool
  | .object members => dependenciesConform members
  | _ => false

def dependenciesConform : Json.Members → Bool
  | [] => true
  | (_, value) :: rest => (isNameList value || conforms value) && dependenciesConform rest

end

end SeriesClient.Schema
