import SeriesClient.Datapoint
import SeriesClient.Channel

/-! What goes over the push connection: the client's messages and the server's updates. -/

namespace SeriesClient

open Json (Mismatch Reader)

inductive Message where
  | subscribe (channel : String)
  | unsubscribe (channel : String)
  | insert (channel : String) (points : List Datapoint)

namespace Message

def toJson : Message → Json
  | subscribe c => .object [("cmd", .string "subscribe"), ("arg", .string c)]
  | unsubscribe c => .object [("cmd", .string "unsubscribe"), ("arg", .string c)]
  | insert c points =>
    .object [("cmd", .string "insert"), ("arg", .string c), ("d", Datapoint.listToJson points)]

def encode (m : Message) : String := m.toJson.text

inductive Command where
  | subscribe
  | unsubscribe
  | insert
  deriving DecidableEq

namespace Command

def ofName? (name : String) : Option Command :=
  if name = "subscribe" then some subscribe
  else if name = "unsubscribe" then some unsubscribe
  else if name = "insert" then some insert
  else none

def takesPoints : Command → Bool
  | insert => true
  | _ => false

def expected : Command → String
  | subscribe => "a channel to subscribe to"
  | unsubscribe => "a channel to unsubscribe from"
  | insert => "a channel and its datapoints"

end Command

structure Arguments where
  channel : Option String := none
  points : Option (List Datapoint) := none

namespace Arguments

def takeMember (takesPoints : Bool) (a : Arguments) (name : String) (value : Json) :
    Except Mismatch Arguments :=
  if name = "arg" then
    if a.channel.isSome then .error (.repeated "arg")
    else (Datapoint.stringOfJson value).map fun c => { a with channel := some c }
  else if takesPoints && name = "d" then
    if a.points.isSome then .error (.repeated "d")
    else (Datapoint.listOfJson value).map fun ps => { a with points := some ps }
  else .ok a

def finish (a : Arguments) (command : Command) : Except Mismatch Message :=
  match a.channel with
  | none => .error (.missing "arg")
  | some c =>
    match command with
    | .subscribe => .ok (.subscribe c)
    | .unsubscribe => .ok (.unsubscribe c)
    | .insert =>
      match a.points with
      | none => .error (.missing "d")
      | some ps => .ok (.insert c ps)

def ofMembers (command : Command) (members : Json.Members) : Except Mismatch Message := do
  let arguments ← members.foldlM (fun (a : Arguments) m => a.takeMember command.takesPoints m.1 m.2) {}
  arguments.finish command

def ofItems (command : Command) (items : List Json) : Except Mismatch Message := do
  match items with
  | [] => .error (.tooFew 0 command.expected)
  | c :: rest =>
    let c ← Datapoint.stringOfJson c
    match command, rest with
    | .subscribe, [] => pure (.subscribe c)
    | .unsubscribe, [] => pure (.unsubscribe c)
    | .insert, [] => .error (.tooFew 1 command.expected)
    | .insert, ps :: rest =>
      let ps ← Datapoint.listOfJson ps
      if rest.isEmpty then pure (.insert c ps) else .error (.tooMany (rest.length + 2))
    | _, rest => .error (.tooMany (rest.length + 1))

end Arguments

/-- The command a message names, which must be a string. -/
def readCommand : Reader Command := do
  let name ← Reader.readText
  match Command.ofName? name with
  | some c => pure c
  | none => Reader.mismatch (.unknownVariant name)

def commandField : String := "cmd"

/-- A message in an object: the command among its members, wherever it stands, and the other members
as written. The arguments are looked at once the object has been read. -/
def readObject (depth : Nat) : Reader (Command × Json) := do
  let (command, members) ← Reader.members
    (fun name (state : Option Command × Json.Members) => do
      if name = commandField then
        if state.1.isSome then Reader.mismatch (.repeated commandField)
        else
          Reader.colon
          let c ← readCommand
          pure (some c, state.2)
      else
        Reader.colon
        let v ← Reader.readValue depth
        pure (state.1, (name, v) :: state.2)) (none, [])
  match command with
  | none => Reader.mismatch (.missing commandField)
  | some c => pure (c, .object members.reverse)

/-- A message in a list: the command, then its arguments. -/
def readItems (depth : Nat) : Reader (Command × Json) := do
  match ← Reader.nextField true readCommand with
  | none => Reader.mismatch (.missing commandField)
  | some c =>
    let arguments ← fun text =>
      Reader.itemsUpTo (Reader.readValue depth) (text.length + 1) false text
    pure (c, .array arguments)

def expected : String := "a message with its command"

def read (depth : Nat) : Reader Message := do
  let (command, arguments) ← Reader.record expected readItems readObject depth
  Reader.ofDocument <| match arguments with
    | .object members => Arguments.ofMembers command members
    | .array items => Arguments.ofItems command items
    | other => .error (.wrongType (.ofJson other) command.expected)

def decode (text : List Glyph) : Except Json.Failure Message :=
  Reader.run (read Reader.depthLimit) text

end Message

/-- Datapoints the server pushes on a channel. -/
structure Update where
  channel : String
  points : List Datapoint

namespace Update

def isDownlink (u : Update) : Bool := Channel.isDownlink u.channel

def toJson (u : Update) : Json :=
  .object [("stream", .string u.channel), ("data", Datapoint.listToJson u.points)]

def encode (u : Update) : String := u.toJson.text

structure Fields where
  channel : Option String := none
  points : Option (List Datapoint) := none

def expected : String := "an update"

def expectedList : String := "an update of two elements"

def readMember (depth : Nat) (name : String) (f : Fields) : Reader Fields := do
  if name = "stream" then
    if f.channel.isSome then Reader.mismatch (.repeated "stream")
    else
      Reader.colon
      let c ← Reader.readText
      pure { f with channel := some c }
  else if name = "data" then
    if f.points.isSome then Reader.mismatch (.repeated "data")
    else
      Reader.colon
      let ps ← Datapoint.readList depth
      pure { f with points := some ps }
  else
    Reader.colon
    Reader.skipValue
    pure f

/-- An update without datapoints may leave the field out. -/
def readObject (depth : Nat) : Reader Update := do
  let f ← Reader.members (readMember depth) {}
  match f.channel with
  | none => Reader.mismatch (.missing "stream")
  | some c => pure ⟨c, f.points.getD []⟩

def readItems (depth : Nat) : Reader Update := do
  match ← Reader.nextField true Reader.readText with
  | none => Reader.mismatch (.tooFew 0 expectedList)
  | some c =>
    let ps ← Reader.nextField false (Datapoint.readList depth)
    pure ⟨c, ps.getD []⟩

def read (depth : Nat) : Reader Update := Reader.record expected readItems readObject depth

def decode (text : List Glyph) : Except Json.Failure Update :=
  Reader.run (read Reader.depthLimit) text

end Update
end SeriesClient
