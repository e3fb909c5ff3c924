import SeriesClient.Message

/-! Where updates wait for whoever watches a channel. They are put in by the callback of the watch and
taken out one after another; the watch is over once the callback is gone and none is left. -/

namespace SeriesClient.Push

structure Inbox where
  waiting : List Update := []
  /-- Whether nobody takes updates from it any more, so that what comes is lost. -/
  dropped : Bool := false

namespace Inbox

def put (b : Inbox) (update : Update) : Inbox :=
  if b.dropped then b else { b with waiting := b.waiting ++ [update] }

/-- The next update, or `none` for the end, which comes when nobody feeds the inbox. Without either,
whoever takes has to wait. -/
def take? (b : Inbox) (fed : Bool) : Option (Option Update × Inbox) :=
  if b.dropped then none
  else
    match b.waiting with
    | update :: rest => some (some update, { b with waiting := rest })
    | [] => if fed then none else some (none, b)

def drop (b : Inbox) : Inbox := { b with waiting := [], dropped := true }

end Inbox
end SeriesClient.Push
