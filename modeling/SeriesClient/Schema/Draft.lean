import SeriesClient.Json.Basic

/-! The drafts of JSON Schema, as far as they differ in where a schema keeps its name and where the
schemas inside it are. A schema is of draft 4 unless it, or one around it, says otherwise. -/

namespace SeriesClient.Schema

inductive Draft where
  | draft4
  | draft6
  | draft7
  | draft2019
  | draft2020
  deriving DecidableEq, Repr

namespace Draft

def rank : Draft → Nat
  | draft4 => 0
  | draft6 => 1
  | draft7 => 2
  | draft2019 => 3
  | draft2020 => 4

def since (draft first : Draft) : Bool := first.rank ≤ draft.rank

def upTo (draft last : Draft) : Bool := draft.rank ≤ last.rank

def places : List (String × Draft) := [
  ("http://json-schema.org/draft-04/schema", draft4),
  ("http://json-schema.org/draft-06/schema", draft6),
  ("http://json-schema.org/draft-07/schema", draft7),
  ("https://json-schema.org/draft/2019-09/schema", draft2019),
  ("https://json-schema.org/draft/2020-12/schema", draft2020)]

end Draft

/-- An empty fragment at the end of a name adds nothing to it, however often it is written. -/
def withoutMarks (name : String) : String :=
  String.ofList (name.toList.reverse.dropWhile (· == '#')).reverse

def text? (key : String) (members : Json.Members) : Option String :=
  (Json.lookup key members).bind Json.string?

namespace Draft

/-- The draft of a schema that stands in one of draft `d`; none if the one it names is unknown. -/
def within (d : Draft) (schema : Json) : Option Draft :=
  match schema with
  | .object members =>
    match text? "$schema" members with
    | some name => (places.find? (·.1 == withoutMarks name)).map (·.2)
    | none => some d
  | _ => some d

def idKey (d : Draft) : String := if d = draft4 then "id" else "$id"

/-- The name of a schema, relative to the place it stands in. Up to draft 7 a reference has no name,
and a name that is no more than a fragment is an anchor. -/
def id? (d : Draft) (schema : Json) : Option String :=
  match schema with
  | .object members =>
    match text? d.idKey members with
    | some id =>
      if d.upTo draft7 && ((Json.lookup "$ref" members).isSome || id.startsWith "#") then none
      else some (withoutMarks id)
    | none => none
  | _ => none

/-- The names that a fragment may use for a schema. -/
def anchors (d : Draft) (schema : Json) : List String :=
  match schema with
  | .object members =>
    match d with
    | draft2019 => (text? "$anchor" members).toList
    | draft2020 => ["$anchor", "$dynamicAnchor"].filterMap (text? · members)
    | _ => ((text? d.idKey members).filter (·.startsWith "#")).toList.map fun id =>
        String.ofList (id.toList.drop 1)
  | _ => []

/-- Keywords whose value is a schema. -/
def single (d : Draft) : List String :=
  ["additionalProperties", "not"] ++
  (if d.upTo draft2019 then ["additionalItems"] else ["items"]) ++
  (if d.since draft6 then ["contains", "propertyNames"] else []) ++
  (if d.since draft7 then ["if", "then", "else"] else []) ++
  (if d.since draft2019 then ["contentSchema", "unevaluatedItems", "unevaluatedProperties"] else [])

/-- Keywords whose value is a list of schemas. -/
def listed (d : Draft) : List String :=
  ["allOf", "anyOf", "oneOf"] ++ (if d = draft2020 then ["prefixItems"] else [])

/-- Keywords whose value has schemas by name. -/
def named (d : Draft) : List String :=
  ["definitions", "patternProperties", "properties"] ++
  (if d.since draft2019 then ["$defs", "dependentSchemas"] else [])

end Draft

def elements : Json → List Json
  | .array items => items
  | _ => []

def values : Json → List Json
  | .object members => members.map (·.2)
  | _ => []

namespace Draft

def underKeyword (d : Draft) (keyword : String) (value : Json) : List Json :=
  if d.single.contains keyword then [value]
  else if d.listed.contains keyword then elements value
  else if d.named.contains keyword then values value
  else if keyword = "items" then
    match value with
    | .array items => items
    | _ => [value]
  else if d.upTo draft7 && keyword = "dependencies" then values value
  else []

/-- The schemas directly inside a schema, and perhaps values that are none. -/
def inside (d : Draft) (schema : Json) : List Json :=
  match schema with
  | .object members => members.flatMap fun (keyword, value) => d.underKeyword keyword value
  | _ => []

/-- A step from a document to a part of it. -/
inductive Step where
  | member (name : String)
  | item
  deriving DecidableEq, Repr

/-- Whether the steps from a schema lead to a schema whose name counts. A step that no keyword
explains leads out of what is known to be schemas. -/
def leadsToSchema (d : Draft) (target : Json) : List Step → Bool
  | [] => true
  | .item :: rest => leadsToSchema d target rest
  | .member name :: rest =>
    if target.isObject &&
        ((d.upTo draft2019 && name = "items") || (d.upTo draft7 && name = "dependencies")) then true
    else if d.single.contains name then leadsToSchema d target rest
    else if d.listed.contains name || d.named.contains name then
      match rest with
      | [] => false
      | _ :: rest => leadsToSchema d target rest
    else false

end Draft
end SeriesClient.Schema
