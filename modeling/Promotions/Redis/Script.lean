import Promotions.Redis.Cache

/-!
A server that answers from a list of replies, one for each request. Once they are used up, it
answers with nothing.
-/

namespace Promotions.Redis

structure Script where
  replies : List Reply := []
  /-- What was sent, the latest first. -/
  sent : List Command := []

namespace Script

def answer (r : Request) (s : Script) : Reply × Script :=
  let s := { s with sent := r.commands.reverse ++ s.sent }
  match s.replies with
  | [] => (.nothing, s)
  | reply :: replies => (reply, { s with replies })

def perform {α : Type} (s : Script) (e : Exchange α) : α × Script :=
  e.run (fun r s => s.answer r) s

end Script

end Promotions.Redis
