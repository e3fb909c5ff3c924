import SeriesClient.Error
import SeriesClient.Schema.Draft
import SeriesClient.Schema.Metaschema
import SeriesClient.Schema.Uri
import SeriesClient.Text.Utf8

/-! Where schemas are found. A registry holds the schemas that have a place of their own: a document and
all schemas inside it that have a name, and the documents that define JSON Schema. A reference is
looked up there, and nowhere else. -/

namespace SeriesClient.Schema

structure Resource where
  draft : Draft
  schema : Json

/-- The latest entry for a key comes first and wins. -/
structure Registry where
  resources : List (Uri × Resource)
  anchors : List ((Uri × String) × Resource)

/-- A schema that was looked up, and the place that it stands in. -/
structure Found where
  base : Uri
  draft : Draft
  schema : Json

namespace Registry

def empty : Registry := ⟨[], []⟩

def resource? (r : Registry) (place : Uri) : Option Resource :=
  (r.resources.find? (·.1 == place)).map (·.2)

def anchor? (r : Registry) (place : Uri) (name : String) : Option Resource :=
  (r.anchors.find? (·.1 == (place, name))).map (·.2)

def add (r : Registry) (place : Uri) (resource : Resource) : Registry :=
  { r with resources := (place, resource) :: r.resources }

def addAnchors (r : Registry) (place : Uri) (resource : Resource) : Registry :=
  (resource.draft.anchors resource.schema).foldl (fun r name =>
    { r with anchors := ((place, name), resource) :: r.anchors }) r

end Registry

/-- One step of a pointer, in which `~1` stands for a slash and `~0` for a tilde. -/
def unescapeStep : List Char → List Char
  | '~' :: '1' :: rest => '/' :: unescapeStep rest
  | '~' :: '0' :: rest => '~' :: unescapeStep rest
  | '~' :: c :: rest => '~' :: c :: unescapeStep rest
  | c :: rest => c :: unescapeStep rest
  | [] => []

/-- A place in a list. The digits may follow a plus sign. -/
def index? (step : List Char) : Option Nat :=
  let digits := match step with
    | '+' :: rest => rest
    | _ => step
  if digits.isEmpty then none else Url.Host.numberIn? 10 digits

def child? (schema : Json) (step : List Char) : Option (Draft.Step × Json) :=
  match schema with
  | .array items => (index? step).bind fun i => items[i]?.map (.item, ·)
  | .object members =>
    let name := String.ofList (unescapeStep step)
    (Json.lookup name members).map (.member name, ·)
  | _ => none

/-- The part of a document that a pointer without escaped bytes leads to. -/
def part? (document : Json) (pointer : List Char) : Option Json :=
  match pointer with
  | [] => some document
  | '/' :: rest =>
    (Url.splitSegments false rest).foldlM (fun part step => (child? part step).map (·.2)) document
  | _ => none

/-- The place that a schema inside `base` has, if it has a name. -/
def placeIn? (base : Uri) (id : Option String) : Option Uri :=
  match id with
  | some id => base.against? id
  | none => some base

/-- Follows a pointer. The steps since the last schema with a name decide whether the name of a part
counts. -/
def descend (draft : Draft) :
    List (List Char) → List Draft.Step → Uri → Json → Option Found
  | [], _, base, schema => some ⟨base, draft, schema⟩
  | step :: rest, steps, base, schema => do
    let (taken, part) ← child? schema step
    let steps := steps ++ [taken]
    let inner ←
      if draft.leadsToSchema part steps then placeIn? base (draft.id? part) else some base
    descend draft rest (if inner = base then steps else []) inner part

namespace Registry

/-- An anchor may be kept under the name that the document gives itself. -/
def anchored? (r : Registry) (place : Uri) (resource : Resource) (name : String) :
    Option Resource :=
  match r.anchor? place name with
  | some found => some found
  | none =>
    match (resource.draft.id? resource.schema).bind Uri.ofName? with
    | some own => r.anchor? own name
    | none => none

/-- The schema at a place, or the part of it that a fragment names by a pointer or an anchor. -/
def locate? (r : Registry) (place : Uri) (fragment : List Char) : Option Found := do
  let resource ← r.resource? place
  match fragment with
  | [] => some ⟨place, resource.draft, resource.schema⟩
  | '/' :: pointer =>
    let text ← Glyph.strict? (Glyph.ofBytes (Url.percentDecode (Url.utf8Bytes pointer)))
    descend resource.draft (Url.splitSegments false text.toList) [] place resource.schema
  | _ =>
    let found ← r.anchored? place resource (String.ofList fragment)
    some ⟨place, found.draft, found.schema⟩

/-- What a reference in a document at `base` refers to. -/
def lookup? (r : Registry) (base : Uri) (reference : String) : Option Found :=
  match reference.toList with
  | '#' :: fragment => r.locate? base fragment
  | chars =>
    match Url.splitLast? '#' chars with
    | some (document, fragment) =>
      (base.against? (String.ofList document)).bind (r.locate? · fragment)
    | none => (base.against? reference).bind (r.locate? · [])

end Registry

/-- What is found on a walk through the schemas of a document: the registry, and the documents that
they refer to. -/
structure Survey where
  registry : Registry
  referred : List (String × Uri)

/-- The places of the documents that define JSON Schema. Whatever is said to be there is not asked
for before it is used. -/
def familiarPlaces : List String := [
  "https://json-schema.org/draft/2020-12/", "https://json-schema.org/draft/2019-09/",
  "http://json-schema.org/draft-07/", "http://json-schema.org/draft-06/",
  "http://json-schema.org/draft-04/"]

def isFamiliar (reference : String) : Bool := familiarPlaces.any fun place => reference.startsWith place

/-- The documents that a schema itself refers to. A reference to a part of the schema itself stands
for what that part refers to. -/
def outgoing (base : Uri) : Nat → Json → Except SchemaFault (List (String × Uri))
  | depth + 1, .object members => do
    let lists ← (["$ref", "$schema"].filterMap (text? · members)).mapM fun reference =>
      match reference.toList with
      | '#' :: rest =>
        let pointer := rest.dropWhile (· == '#')
        match if pointer.isEmpty then none else part? (.object members) pointer with
        | some part => outgoing base depth part
        | none => pure []
      | _ =>
        if isFamiliar reference then pure []
        else match base.document.against? reference with
          | some place => pure [(reference, place.document)]
          | none => throw (.unresolvedReference reference)
    pure lists.flatten
  | _, _ => .ok []

mutual

/-- How many schemas may lie inside one another in a document. -/
def depth : Json → Nat
  | .array items => 1 + itemsDepth items
  | .object members => 1 + membersDepth members
  | _ => 1

def itemsDepth : List Json → Nat
  | [] => 0
  | item :: rest => max (depth item) (itemsDepth rest)

def membersDepth : Json.Members → Nat
  | [] => 0
  | (_, value) :: rest => max (depth value) (membersDepth rest)

end

namespace Survey

/-- A URN is a name and not a place, so nothing is relative to it. -/
def isUrn (place : Uri) : Bool := place.scheme = some "urn".toList

/-- Takes in one schema. The result has the schemas inside it, with the place that they stand in. -/
def visit (s : Survey) (base : Uri) (resource : Resource) :
    Except SchemaFault (Survey × List (Uri × Resource)) := do
  let id := resource.draft.id? resource.schema
  let some place := placeIn? base id | throw (.unresolvedReference (id.getD ""))
  let registry := if id.isSome then s.registry.add place resource else s.registry
  let referred ← if isUrn place then pure [] else outgoing place (depth resource.schema) resource.schema
  let inner ← (resource.draft.inside resource.schema).mapM fun schema =>
    match resource.draft.within schema with
    | some draft => pure (place, ⟨draft, schema⟩)
    | none => throw .violatesDraft
  pure (⟨registry.addAnchors place resource, s.referred ++ referred⟩, inner)

def visitAll : Nat → Survey → List (Uri × Resource) → Except SchemaFault Survey
  | 0, s, _ => .ok s
  | levels + 1, s, found => do
    let (s, inner) ← found.foldlM (fun (s, inner) (base, resource) => do
      let (s, more) ← s.visit base resource
      pure (s, inner ++ more)) (s, [])
    visitAll levels s inner

def document (s : Survey) (place : Uri) (resource : Resource) : Except SchemaFault Survey :=
  visitAll (depth resource.schema) { s with registry := s.registry.add place resource }
    [(place, resource)]

end Survey

namespace Registry

def standard : Registry :=
  Metaschema.documents.foldl (fun r (name, schema) =>
    match Uri.ofName? name, Draft.draft2020.within schema with
    | some place, some draft =>
      match Survey.document ⟨r, []⟩ place ⟨draft, schema⟩ with
      | .ok s => s.registry
      | .error _ => r
    | _, _ => r) empty

/-- The place that a document starts from. -/
def rootPlace? (schema : Json) : Option Uri :=
  match Draft.draft4.id? schema with
  | some id => Uri.ofName? id
  | none => some Uri.unnamed

/-- The registry for a document of draft 4. Every document that it refers to must be there. -/
def ofDocument (schema : Json) : Except SchemaFault Registry := do
  let some place := rootPlace? schema | throw .violatesDraft
  let s ← Survey.document ⟨standard, []⟩ place ⟨.draft4, schema⟩
  match s.referred.find? fun (_, place) => (s.registry.resource? place).isNone with
  | some (reference, _) => throw (.unresolvedReference reference)
  | none => pure s.registry

end Registry
end SeriesClient.Schema
