import SeriesClient.Schema.Draft4
import SeriesClient.Schema.Registry

/-! Which schemas can be put to use. A schema in use must make sense keyword by keyword, and so must the
schemas inside it and those that it refers to, wherever they stand; a schema that nothing uses need
not. -/

namespace SeriesClient.Schema

/-- What a keyword makes of its value. A value outside of it makes no sense. -/
inductive Need where
  /-- Whatever it is, it is not looked at. -/
  | nothing
  | such (test : Json → Bool)
  | regex
  | reference
  | schema
  /-- A schema if it is an object; other values are let be. -/
  | schemaObject
  | schemas
  /-- Schemas if it is a list; other values are let be. -/
  | schemaList
  /-- A schema, or a list of schemas; other values are let be. -/
  | schemaOrSchemas
  | schemaMap
  | patternMap
  | dependencies

/-- After draft 4 a count may be any number without a fraction. -/
def isCountIn (d : Draft) : Json → Bool
  | .number (.integer n _) => 0 ≤ n || d != .draft4
  | .number (.real x _) => d != .draft4 && x.floor == x
  | _ => false

def areNames : Json → Bool
  | .array items => items.all isText
  | _ => false

def areTypes : Json → Bool
  | .array items => items.all isTypeName
  | other => isTypeName other

def areNameLists : Json → Bool
  | .object members => members.all fun (_, value) => areNames value
  | _ => false

def hasKey (key : String) (siblings : Json.Members) : Bool := (Json.lookup key siblings).isSome

/-- What `additionalItems` says depends on `items`. -/
def additionalItemsNeed (siblings : Json.Members) : Need :=
  match Json.lookup "items" siblings with
  | none => .nothing
  | some (.array _) => .schemaObject
  | some (.object _) => .nothing
  | some (.bool _) => .nothing
  | some _ => .such fun _ => false

/-- Only the media type of JSON is looked into, and how it is encoded then has to be said by name. -/
def contentNeed (siblings : Json.Members) : Need :=
  .such fun value =>
    match value with
    | .string "application/json" => ((Json.lookup "contentEncoding" siblings).map isText).getD true
    | .string _ => true
    | _ => false

def counts : List String :=
  ["maxItems", "maxLength", "maxProperties", "minItems", "minLength", "minProperties"]

/-- What the keywords of all drafts need. -/
def commonNeed (d : Draft) (siblings : Json.Members) (keyword : String) : Need :=
  match keyword with
  | "type" => .such areTypes
  | "enum" => .such isList
  | "required" => .such areNames
  | "maximum" | "minimum" | "multipleOf" => .such isNumber
  | "uniqueItems" => .such isFlag
  | "pattern" => .regex
  | "properties" => .schemaMap
  | "patternProperties" => .patternMap
  | "additionalProperties" | "not" => .schema
  | "allOf" | "anyOf" | "oneOf" => .schemas
  | "items" => .schemaOrSchemas
  | "dependencies" => .dependencies
  | "additionalItems" => if d = .draft2020 then .nothing else additionalItemsNeed siblings
  | "format" => if d.upTo .draft7 then .such isText else .nothing
  | _ => if counts.contains keyword then .such (isCountIn d) else .nothing

/-- What the keywords need that came after draft 4. -/
def laterNeed (d : Draft) (siblings : Json.Members) (keyword : String) : Need :=
  match keyword with
  | "exclusiveMaximum" | "exclusiveMinimum" => if d.since .draft6 then .such isNumber else .nothing
  | "contains" => .schema
  | "propertyNames" => .schemaObject
  | "contentMediaType" => if d.upTo .draft7 then contentNeed siblings else .nothing
  | "contentEncoding" =>
    if d.upTo .draft7 && !hasKey "contentMediaType" siblings then .such isText else .nothing
  | "if" => if hasKey "then" siblings || hasKey "else" siblings then .schema else .nothing
  | "then" | "else" => if hasKey "if" siblings then .schema else .nothing
  | "$ref" | "$dynamicRef" => .reference
  | "dependentRequired" => .such areNameLists
  | "dependentSchemas" => .schemaMap
  | "unevaluatedItems" | "unevaluatedProperties" => .schema
  | "maxContains" | "minContains" =>
    if hasKey "contains" siblings then .such (isCountIn d) else .nothing
  | "prefixItems" => .schemaList
  | _ => .nothing

def introduced (keyword : String) : Draft :=
  if ["if", "then", "else"].contains keyword then .draft7
  else if ["$ref", "dependentRequired", "dependentSchemas", "unevaluatedItems",
    "unevaluatedProperties", "maxContains", "minContains"].contains keyword then .draft2019
  else if ["$dynamicRef", "prefixItems"].contains keyword then .draft2020
  else .draft6

def needOf (d : Draft) (siblings : Json.Members) (keyword : String) : Need :=
  match commonNeed d siblings keyword with
  | .nothing =>
    if d.since (introduced keyword) then laterNeed d siblings keyword else .nothing
  | need => need

/-- A reference that is followed when a schema is used, and the place that it stands in. -/
structure Link where
  base : Uri
  reference : String

/-- The place and the draft of a schema inside another one. -/
def entered (d : Draft) (base : Uri) (schema : Json) : Except SchemaFault (Draft × Uri) :=
  let draft := (d.within schema).getD .draft2020
  let id := draft.id? schema
  match placeIn? base id with
  | some place => .ok (draft, place)
  | none => .error (.unresolvedReference (id.getD ""))

def linkTo (base : Uri) (reference : Json) : Except SchemaFault (List Link) :=
  match reference with
  | .string text => .ok [⟨base, text⟩]
  | _ => .error .violatesDraft

def checkPattern (pattern : String) : Except SchemaFault Unit :=
  if Pattern.isUsable pattern then .ok () else .error (.badPattern pattern)

mutual

def links (d : Draft) (base : Uri) : Json → Except SchemaFault (List Link)
  | .bool _ => .ok []
  | .object members =>
    match Json.lookup "$ref" members with
    | some reference =>
      if d.upTo .draft7 then linkTo base reference else memberLinks d base members members
    | none => memberLinks d base members members
  | _ => .error .violatesDraft

def memberLinks (d : Draft) (base : Uri) (siblings : Json.Members) :
    Json.Members → Except SchemaFault (List Link)
  | [] => .ok []
  | (keyword, value) :: rest => do
    let here ← match needOf d siblings keyword with
      | .nothing => pure []
      | .such test => if test value then pure [] else throw .violatesDraft
      | .regex =>
        match value with
        | .string pattern => (checkPattern pattern).map fun _ => []
        | _ => throw .violatesDraft
      | .reference => linkTo base value
      | .schema => do
        let (d, base) ← entered d base value
        links d base value
      | .schemaObject =>
        if value.isObject then do
          let (d, base) ← entered d base value
          links d base value
        else pure []
      | .schemas =>
        match value with
        | .array items => itemLinks d base items
        | _ => throw .violatesDraft
      | .schemaList =>
        match value with
        | .array items => itemLinks d base items
        | _ => pure []
      | .schemaOrSchemas =>
        match value with
        | .array items => itemLinks d base items
        | .object members => do
          let (d, base) ← entered d base (.object members)
          links d base (.object members)
        | _ => pure []
      | .schemaMap =>
        match value with
        | .object members => valueLinks d base false false members
        | _ => throw .violatesDraft
      | .patternMap =>
        match value with
        | .object members => valueLinks d base true false members
        | _ => throw .violatesDraft
      | .dependencies =>
        match value with
        | .object members => valueLinks d base false true members
        | _ => throw .violatesDraft
    let more ← memberLinks d base siblings rest
    pure (here ++ more)

def itemLinks (d : Draft) (base : Uri) : List Json → Except SchemaFault (List Link)
  | [] => .ok []
  | item :: rest => do
    let (draft, place) ← entered d base item
    let here ← links draft place item
    let more ← itemLinks d base rest
    pure (here ++ more)

/-- The schemas of an object. Their names may be patterns, and a list may stand for the names that it
has. -/
def valueLinks (d : Draft) (base : Uri) (patterns lists : Bool) :
    Json.Members → Except SchemaFault (List Link)
  | [] => .ok []
  | (name, value) :: rest => do
    if patterns then checkPattern name
    let here ← match lists, value with
      | true, .array items => if items.all isText then pure [] else throw .violatesDraft
      | _, value => do
        let (draft, place) ← entered d base value
        links draft place value
    let more ← valueLinks d base patterns lists rest
    pure (here ++ more)

end

mutual

def size : Json → Nat
  | .array items => 1 + itemsSize items
  | .object members => 1 + membersSize members
  | _ => 1

def itemsSize : List Json → Nat
  | [] => 0
  | item :: rest => size item + itemsSize rest

def membersSize : Json.Members → Nat
  | [] => 0
  | (_, value) :: rest => size value + membersSize rest

end

/-- Follows references, each place once. `seen` are the places already reached. -/
def followLinks (r : Registry) : Nat → List Uri → List Link → Except SchemaFault Unit
  | 0, _, _ => .ok ()
  | _, _, [] => .ok ()
  | fuel + 1, seen, link :: rest =>
    match link.base.against? link.reference, r.lookup? link.base link.reference with
    | some place, found =>
      if seen.contains place then followLinks r fuel seen rest
      else
        match found with
        | none => .error (.unresolvedReference link.reference)
        | some found =>
          match links found.draft found.base found.schema with
          | .error fault => .error fault
          | .ok more => followLinks r fuel (place :: seen) (more ++ rest)
    | none, _ => .error (.unresolvedReference link.reference)

/-- How much there is to follow: every reference from every place to every place. -/
def linkBound (r : Registry) : Nat :=
  let total := r.resources.foldl (fun sum entry => sum + size entry.2.schema) 1
  total * total * total

/-- Whether a document of draft 4 can be put to use. -/
def checkUsable (r : Registry) (place : Uri) (schema : Json) : Except SchemaFault Unit := do
  let id := Draft.draft4.id? schema
  let some base := placeIn? place id | throw (.unresolvedReference (id.getD ""))
  let start ← links .draft4 base schema
  followLinks r (linkBound r) [] start

end SeriesClient.Schema
