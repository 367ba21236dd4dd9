import Promotions.Text.Numeral

/-!
The commands that the cache sends to its server, and the server's replies.
-/

namespace Promotions.Redis

open Text

inductive Command where
  | get (key : String)
  /-- Runs a script that the server knows, on two keys. -/
  | runScript (script : String) (key other : String) (arguments : List String)
  | loadScript (script : String)
  | multi
  | increment (key : String)
  | delete (key : String)
  | exec
  deriving DecidableEq

/-- The words of a command, where scripts are known by their digest. -/
def Command.words (digest : String → String) : Command → List String
  | .get key => ["GET", key]
  | .runScript script key other arguments =>
    ["EVALSHA", digest script, "2", key, other] ++ arguments
  | .loadScript script => ["SCRIPT", "LOAD", script]
  | .multi => ["MULTI"]
  | .increment key => ["INCRBY", key, "1"]
  | .delete key => ["DEL", key]
  | .exec => ["EXEC"]

/-- What is sent before the server's reply is waited for. -/
inductive Request where
  /-- One command. -/
  | single (c : Command)
  /-- Commands that are carried out together; there is one reply for all. -/
  | together (cs : List Command)

def Request.commands : Request → List Command
  | .single c => [c]
  | .together cs => .multi :: cs ++ [.exec]

inductive Reply where
  | nothing
  | integer (n : Int)
  | text (s : String)
  | list (rs : List Reply)
  | error (text : String)

/-- The most levels that a reply may have, when each list lies one level above its items. -/
def maxLevels : Nat := 100

mutual

/-- Whether a reply has no more levels than given and every integer in it at most 64 bits. -/
def Reply.isReadable : (levels : Nat) → Reply → Bool
  | 0, _ => false
  | _ + 1, .integer n => minInt64 ≤ n && n ≤ maxInt64
  | levels + 1, .list rs => Reply.areReadable levels rs
  | _ + 1, .nothing | _ + 1, .text _ | _ + 1, .error _ => true

def Reply.areReadable : (levels : Nat) → List Reply → Bool
  | _, [] => true
  | levels, r :: rs => Reply.isReadable levels r && Reply.areReadable levels rs

end

mutual

/-- The first error in a reply, at any depth. -/
def Reply.firstError? : Reply → Option String
  | .error e => some e
  | .list rs => Reply.firstErrorOf? rs
  | .nothing | .integer _ | .text _ => none

def Reply.firstErrorOf? : List Reply → Option String
  | [] => none
  | r :: rs => r.firstError? <|> Reply.firstErrorOf? rs

end

def unreadable : String := "Expected integer, got garbage - ParseError"

/-- A reply that can be read and holds no error, at any depth. -/
def Reply.success (r : Reply) : Except String Reply :=
  if r.isReadable maxLevels then
    match r.firstError? with
    | some e => .error e
    | none => .ok r
  else .error unreadable

end Promotions.Redis
