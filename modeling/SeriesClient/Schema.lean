import SeriesClient.Schema.Usage

/-! Schemas of streams. A stream is created only with a document that is a JSON Schema of draft 4, and
that can be put to use with what is known. -/

namespace SeriesClient.Schema

def check (schema : Json) : Except SchemaFault Unit := do
  if !schema.isObject then throw (.notAnObject schema)
  let registry ← Registry.ofDocument schema
  if !conforms schema then throw .violatesDraft
  let some place := Registry.rootPlace? schema | throw .violatesDraft
  checkUsable registry place schema

end SeriesClient.Schema
