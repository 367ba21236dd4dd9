import Promotions.CacheKey
import Promotions.Redis.Command
import Promotions.Service.Ask
import Promotions.Text.Numeral

/-!
The cache on a server. An entry and its generation are two keys. The generation is compared and the
entry written by one script; the entry is removed and its generation ended in one transaction. The
server forgets scripts, so one that it does not know is loaded and run again.
-/

namespace Promotions.Redis

open Text

abbrev Exchange (α : Type) := Dialogue Request (fun _ => Reply) α

def send (c : Command) : Exchange (Except String Reply) :=
  .ask (.single c) fun r => .done r.success

/-- The reply to commands that are carried out together. -/
def sendTogether (cs : List Command) : Exchange (Except String Reply) :=
  .ask (.together cs) fun r => .done r.success

def unexpected : String := "Response was of incompatible type - TypeError"

/-- A text that may be missing; an integer counts as its decimal text. -/
def Reply.text? : Reply → Except String (Option String)
  | .nothing => .ok none
  | .integer n => .ok (some (toString n))
  | .text s => .ok (some s)
  | .list _ => .error unexpected
  | .error e => .error e

/-- A counter of 64 bits that is zero while it is missing. -/
def Reply.counter : Reply → Except String Nat
  | .nothing => .ok 0
  | .integer n => .ok (n % 18446744073709551616).toNat
  | .text s =>
    match Text.integer 0 maxWord64 s.toList with
    | .ok n => .ok n.toNat
    | .error _ => .error unexpected
  | .list _ => .error unexpected
  | .error e => .error e

def Reply.number : Reply → Except String Int
  | .integer n => .ok n
  | .text s =>
    match Text.integer minInt64 maxInt64 s.toList with
    | .ok n => .ok n
    | .error _ => .error unexpected
  | .nothing | .list _ => .error unexpected
  | .error e => .error e

/-- Success of commands that were carried out together, or given up because a key had changed. -/
def Reply.together : Reply → Except String Unit
  | .nothing | .list _ => .ok ()
  | .error e => .error e
  | .integer _ | .text _ => .error "Invalid response when parsing multi response - ResponseError"

/-- Whether an error says that the server does not know a script. -/
def saysNoScript (e : String) : Bool := e.toList.takeWhile (· ≠ ' ') = "NOSCRIPT".toList

/-- Compares the generation with the second argument and writes the first one if they agree. -/
def fillScript : String :=
  "local current = redis.call('GET', KEYS[2]) or '0' if current == ARGV[2] then "
  ++ "redis.call('SET', KEYS[1], ARGV[1]) return 1 end return 0"

/-- The reply of a script, which is loaded first if the server does not know it. -/
def runScript (script key other : String) (arguments : List String) :
    Exchange (Except String Reply) := do
  let command := Command.runScript script key other arguments
  match ← send command with
  | .error e =>
    if saysNoScript e then
      match ← send (.loadScript script) with
      | .error e => return .error e
      | .ok _ => send command
    else return .error e
  | r => return r

namespace Cache

def named {α : Type} (operation : String) (r : Except String α) : Except Failure α :=
  r.mapError fun e => .cache (operation ++ ": " ++ e)

def find (key : String) : Exchange (Except Failure (Option String)) := do
  let r ← send (.get key)
  return named ("GET " ++ key) (r.bind Reply.text?)

def generation (key : String) : Exchange (Except Failure Nat) := do
  let r ← send (.get (generationKey key))
  return named ("GET " ++ generationKey key) (r.bind Reply.counter)

def fill (key value : String) (generation : Nat) : Exchange (Except Failure Bool) := do
  let r ← runScript fillScript key (generationKey key) [value, toString generation]
  return named ("SET " ++ key) ((r.bind Reply.number).map fun n => n == 1)

/-- Removes the text under a key and ends its generation. -/
def invalidate (key : String) : Exchange (Except Failure Unit) := do
  let r ← sendTogether [.increment (generationKey key), .delete key]
  return named ("DEL " ++ key) (r.bind Reply.together)

/-- The dialogue that answers a question to the cache. -/
def answer : (r : CacheRequest) → Exchange r.Answer
  | .find key => find key
  | .generation key => generation key
  | .fill key value generation => fill key value generation
  | .invalidate key => invalidate key

end Cache

end Promotions.Redis
