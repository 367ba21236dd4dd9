import Promotions.Text.CharSet
import Promotions.Url.Host

/-!
Addresses of resources, taken apart: scheme, credentials, host, port, path and query. A text is an
address only if it starts with a scheme; there is nothing that it could be relative to. A fragment
is allowed but not kept.
-/

namespace Promotions

inductive Url.Path where
  /-- Segments, each with a slash before it. -/
  | segments (names : List (List Char))
  /-- A text without structure. -/
  | opaqueText (text : List Char)
  deriving DecidableEq

structure Url where
  scheme : List Char
  username : List Char := []
  password : List Char := []
  host : Option Url.Host := none
  port : Option Nat := none
  path : Url.Path
  query : Option (List Char) := none
  deriving DecidableEq

namespace Url

open Text

/-- The families of schemes, by what may stand after the colon. -/
inductive Family where
  /-- Files: the host is optional, and no port can be given. -/
  | file
  /-- Schemes that always have a host. Backslashes count as slashes. -/
  | network
  /-- All other schemes. -/
  | other
  deriving DecidableEq

/-- The schemes that always have a host, and the port that each takes when none is given. -/
def networkPorts : List (String × Nat) :=
  [("http", 80), ("https", 443), ("ws", 80), ("wss", 443), ("ftp", 21)]

def family (scheme : List Char) : Family :=
  if scheme = "file".toList then .file
  else if networkPorts.any (·.1.toList = scheme) then .network
  else .other

def Family.backslashes (f : Family) : Bool := f != .other

/-! ### Escaping -/

def escapedInQuery (f : Family) (c : Char) : Bool :=
  Host.beyondPrintable c || " \"#<>".toList.contains c || (f.backslashes && c == '\'')

def escapedInPath (c : Char) : Bool :=
  Host.beyondPrintable c || " \"#<>?\x60\x7b\x7d".toList.contains c

def escapedInCredentials (c : Char) : Bool := escapedInPath c || "/:;=@[\\]^|".toList.contains c

/-! ### Reading -/

/-- Controls and spaces at both ends do not count; tabs and line breaks do not count anywhere. -/
def clean (cs : List Char) : List Char :=
  let outer (c : Char) : Bool := c.toNat ≤ 0x20
  let cs := cs.dropWhile outer
  let cs := (cs.reverse.dropWhile outer).reverse
  cs.filter fun c => !(c = '\t' || c = '\n' || c = '\r')

def readScheme (cs : List Char) : Option (List Char × List Char) :=
  let inScheme (c : Char) : Bool := c.isAlphanum || c = '+' || c = '-' || c = '.'
  match cs.takeWhile inScheme, cs.dropWhile inScheme with
  | c :: scheme, ':' :: rest =>
    if c.isAlpha then some ((c :: scheme).map Char.toLower, rest) else none
  | _, _ => none

def endsAuthority (f : Family) (c : Char) : Bool :=
  c = '/' || c = '?' || c = '#' || (f.backslashes && c = '\\')

/-- The credentials before the last at-sign, and the text that starts with the host. An at-sign
without credentials must not be followed by the end of the authority. -/
def readCredentials (f : Family) (cs : List Char) : Option (List Char × List Char) :=
  let authority := cs.takeWhile fun c => !endsAuthority f c
  let host := (authority.reverse.takeWhile (· ≠ '@')).reverse
  if host.length = authority.length then some ([], cs)
  else
    let credentials := authority.take (authority.length - host.length - 1)
    let rest := cs.drop (credentials.length + 1)
    match credentials, rest with
    | [], c :: _ => if endsAuthority f c then none else some ([], rest)
    | _, _ => some (credentials, rest)

/-- The text of a host and what follows it. A colon ends it unless it stands within brackets. -/
def readHostText (f : Family) : (inside : Bool) → List Char → List Char × List Char
  | _, [] => ([], [])
  | inside, c :: cs =>
    if endsAuthority f c || (c = ':' && !inside) then ([], c :: cs)
    else
      let r := readHostText f (if c = '[' then true else if c = ']' then false else inside) cs
      (c :: r.1, r.2)

def readPort (cs : List Char) : Option (Option Nat × List Char) :=
  let ds := cs.takeWhile Char.isDigit
  let rest := cs.dropWhile Char.isDigit
  let ends := match rest with
    | [] => true
    | c :: _ => c = '/' || c = '\\' || c = '?' || c = '#'
  if ends && decimalValue ds < 65536 then
    some (if ds.isEmpty then none else some (decimalValue ds), rest)
  else none

/-- The segments of the text of a path that has no slash before it. -/
def splitPath (f : Family) (cs : List Char) : List (List Char) :=
  pieces (fun c => c = '/' || (f.backslashes && c = '\\')) cs

/-- The ways to write a segment that stands for the place it is in. -/
def isSingleDot (s : List Char) : Bool :=
  let s := s.map Char.toLower
  s = ".".toList || s = "%2e".toList

/-- The ways to write a segment that stands for the place above. -/
def isDoubleDot (s : List Char) : Bool :=
  let s := s.map Char.toLower
  s = "..".toList || s = ".%2e".toList || s = "%2e.".toList || s = "%2e%2e".toList

/-- The letter of a drive, with a colon or a bar. It is no host, and there is no place above it. -/
def isDriveLetter : List Char → Bool
  | [c, d] => c.isAlpha && (d = ':' || d = '|')
  | _ => false

def above (done : List (List Char)) : List (List Char) :=
  if done.getLast?.any isDriveLetter then done else done.dropLast

/-- Segments after those of `done`, with dots resolved and escapes made. -/
def resolve (done : List (List Char)) : List (List Char) → List (List Char)
  | [] => done
  | [s] =>
    if isDoubleDot s then above done ++ [[]]
    else if isSingleDot s then done ++ [[]]
    else done ++ [percentEncode escapedInPath s]
  | s :: ss =>
    if isDoubleDot s then resolve (above done) ss
    else if isSingleDot s then resolve done ss
    else resolve (done ++ [percentEncode escapedInPath s]) ss

/-- The path that starts where the host has ended. It is never without segments where backslashes
count as slashes. -/
def pathAfterHost (f : Family) (cs : List Char) : Path :=
  match cs with
  | [] => .segments (if f.backslashes then [[]] else [])
  | c :: rest =>
    if c = '/' || (f.backslashes && c = '\\') then .segments (resolve [] (splitPath f rest))
    else .segments (resolve [] (splitPath f cs))

/-- Path and query, told apart by the first question mark. -/
def readTail (f : Family) (path : List Char → Path) (cs : List Char) : Path × Option (List Char) :=
  let cs := cs.takeWhile (· ≠ '#')
  let before := cs.takeWhile (· ≠ '?')
  match cs.dropWhile (· ≠ '?') with
  | _ :: query => (path before, some (percentEncode (escapedInQuery f) query))
  | [] => (path before, none)

def readAuthority (f : Family) (scheme cs : List Char) : Option Url := do
  let (credentials, cs) ← readCredentials f cs
  let username := credentials.takeWhile (· ≠ ':')
  let password := (credentials.dropWhile (· ≠ ':')).drop 1
  let (hostText, cs) := readHostText f false cs
  let host ← if f = .other then Host.ofOpaque? hostText else Host.ofText? hostText
  let host := if host = .name [] then none else some host
  let (port, cs) ← match cs with
    | ':' :: rest => if host.isNone then none else readPort rest
    | cs => some (none, cs)
  if host.isNone && !(username.isEmpty && password.isEmpty) then none
  let default := (networkPorts.find? (·.1.toList = scheme)).map (·.2)
  let (path, query) := readTail f (pathAfterHost f) cs
  some { scheme, host, path, query,
         username := percentEncode escapedInCredentials username,
         password := percentEncode escapedInCredentials password,
         port := if port = default then none else port }

/-- The address of a file after the scheme's colon. This machine's own name counts as no host. -/
def readFile (scheme cs : List Char) : Option Url :=
  let isSlash (c : Char) : Bool := c = '/' || c = '\\'
  match cs with
  | a :: b :: rest =>
    if isSlash a && isSlash b then do
      let hostText := rest.takeWhile fun c => !endsAuthority .file c
      let atPath (host : Option Host) (cs : List Char) : Url :=
        let (path, query) := readTail .file (pathAfterHost .file) cs
        { scheme, host, path, query }
      if hostText.isEmpty || isDriveLetter hostText then some (atPath none rest)
      else
        let host ← Host.ofText? hostText
        some (atPath (if host = .name "localhost".toList then none else some host)
          (rest.drop hostText.length))
    else
      let (path, query) := readTail .file (pathAfterHost .file) cs
      some { scheme, path, query }
  | _ =>
    let (path, query) := readTail .file (pathAfterHost .file) cs
    some { scheme, path, query }

/-- An address in one of the schemes that need no host, after the scheme's colon. -/
def readOther (scheme cs : List Char) : Option Url :=
  match cs with
  | '/' :: '/' :: rest => readAuthority .other scheme rest
  | '/' :: _ =>
    let (path, query) := readTail .other (pathAfterHost .other) cs
    some { scheme, path, query }
  | _ =>
    let (path, query) := readTail .other
      (fun cs => .opaqueText (percentEncode Host.beyondPrintable cs)) cs
    some { scheme, path, query }

def read? (cs : List Char) : Option Url := do
  let (scheme, cs) ← readScheme (clean cs)
  match family scheme with
  | .file => readFile scheme cs
  | .network =>
    readAuthority .network scheme (cs.dropWhile fun c => c = '/' || c = '\\')
  | .other => readOther scheme cs

def ofString? (s : String) : Option Url := read? s.toList

/-! ### Writing -/

def Path.text : Path → List Char
  | .segments names => names.flatMap ('/' :: ·)
  | .opaqueText text => text

def target (u : Url) : List Char :=
  u.path.text ++ match u.query with
    | some query => '?' :: query
    | none => []

end Url

end Promotions
