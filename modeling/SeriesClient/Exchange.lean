import SeriesClient.Query
import SeriesClient.Datapoint

/-! Operations as conversations. An operation asks the outside world for one thing after another and
goes on with each reply, so what it asks can be read off without saying how replies come about. -/

namespace SeriesClient

/-- A request to the API, its path being relative to the root. -/
inductive Call where
  | get (path : String) (parameters : Parameters)
  | post (path : String) (body : Json)
  | put (path : String) (body : Json)

namespace Call

def path : Call → String
  | get path _ | post path _ | put path _ => path

def body? : Call → Option Json
  | get _ _ => none
  | post _ body | put _ body => some body

end Call

/-- What an operation may ask for. `κ` is what is registered for a channel. -/
inductive Ask (κ : Type) where
  | api (call : Call)
  | pushInsert (channel : String) (points : List Datapoint)
  | subscribe (channel : String) (callback : κ)
  | unsubscribe (channel : String)

/-- A push insert is answered by whether it was sent. -/
def Ask.Reply {κ : Type} : Ask κ → Type
  | api _ => Except StreamError Json
  | pushInsert _ _ => Bool
  | subscribe _ _ => Except StreamError Unit
  | unsubscribe _ => Except StreamError Unit

inductive Exchange (κ α : Type) where
  | done (value : α)
  | ask (question : Ask κ) (next : question.Reply → Exchange κ α)

namespace Exchange

variable {κ α β : Type}

def bind (e : Exchange κ α) (f : α → Exchange κ β) : Exchange κ β :=
  match e with
  | done value => f value
  | ask question next => ask question fun reply => (next reply).bind f

def map (f : α → β) (e : Exchange κ α) : Exchange κ β := e.bind fun value => done (f value)

@[simp] theorem bind_done (value : α) (f : α → Exchange κ β) : (done value).bind f = f value := rfl

@[simp] theorem bind_ask (question : Ask κ) (next : question.Reply → Exchange κ α)
    (f : α → Exchange κ β) :
    (ask question next).bind f = ask question fun reply => (next reply).bind f := rfl

@[simp] theorem map_done (f : α → β) (value : α) :
    (done value : Exchange κ α).map f = done (f value) := rfl

def api (call : Call) : Exchange κ (Except StreamError Json) := ask (.api call) done

end Exchange

/-- What an operation must know of the client it runs in. -/
structure Access where
  /-- Whether inserts are to be tried over the push connection first. -/
  pushInserts : Bool
  hasPush : Bool

end SeriesClient
