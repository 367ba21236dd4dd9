import Promotions.Url.Domain

/-!
Hosts of addresses: domain names, numeric addresses of both kinds, and the opaque names of schemes
that have hosts of their own.
-/

namespace Promotions.Url

open Text

inductive Host where
  /-- A domain name, or the opaque name of another scheme's host. -/
  | name (text : List Char)
  /-- A numeric address of 32 bits. -/
  | ipv4 (address : Nat)
  /-- A numeric address of 128 bits, as eight pieces of 16. -/
  | ipv6 (pieces : List Nat)
  deriving DecidableEq

namespace Host

/-- A part of a 32-bit address: decimal, octal after a zero, or hexadecimal after `0x`. Nothing but
a base stands for zero. -/
def ipv4Part? (cs : List Char) : Option Nat :=
  let (base, ds) := match cs with
    | '0' :: 'x' :: ds => (16, ds)
    | '0' :: 'X' :: ds => (16, ds)
    | '0' :: d :: ds => (8, d :: ds)
    | ds => (10, ds)
  if cs.isEmpty then none
  else do
    let ds ← ds.mapM hexValue?
    if ds.all (· < base) then some (valueFrom base 0 ds) else none

/-- The parts of a name between its points, less an empty one at its end. -/
def ipv4Parts (name : List Char) : List (List Char) :=
  let parts := Domain.labels name
  if 1 < parts.length ∧ parts.getLast? = some [] then parts.dropLast else parts

/-- Whether the last part of a name is a number, so that the name must be a 32-bit address. -/
def endsInNumber (name : List Char) : Bool :=
  match (ipv4Parts name).getLast? with
  | some last => (!last.isEmpty && last.all Char.isDigit) || (ipv4Part? last).isSome
  | none => false

/-- A 32-bit address: up to four parts, all but the last of eight bits; the last one fills up the
rest. -/
def ipv4? (name : List Char) : Option Host := do
  let parts := ipv4Parts name
  if 4 < parts.length then none
  let numbers ← parts.mapM ipv4Part?
  let last ← numbers.getLast?
  let bytes := numbers.dropLast
  if bytes.all (· < 256) && last < Nat.pow 256 (4 - bytes.length) then
    some (.ipv4 (valueFrom 256 0 bytes * Nat.pow 256 (4 - bytes.length) + last))
  else none

/-- One of the four decimal numbers at the end of a 128-bit address. It has no leading zero. -/
def quadPart? (cs : List Char) : Option Nat :=
  match cs with
  | [] => none
  | ['0'] => some 0
  | '0' :: _ => none
  | ds => if ds.all Char.isDigit ∧ decimalValue ds < 256 then some (decimalValue ds) else none

/-- The two pieces that four decimal numbers with points between them stand for. -/
def quad? (cs : List Char) : Option (List Nat) := do
  match ← (Domain.labels cs).mapM quadPart? with
  | [a, b, c, d] => some [a * 256 + b, c * 256 + d]
  | _ => none

def betweenColons (cs : List Char) : List (List Char) :=
  if cs.isEmpty then [] else pieces (· = ':') cs

def piece? (cs : List Char) : Option Nat :=
  if 1 ≤ cs.length ∧ cs.length ≤ 4 then (cs.mapM hexValue?).map (valueFrom 16 0) else none

/-- Pieces with colons between them; where an address ends, four decimal numbers may stand for the
last two. -/
def pieces? (atEnd : Bool) (cs : List Char) : Option (List Nat) :=
  let texts := betweenColons cs
  match texts.getLast? with
  | some last =>
    if atEnd && last.contains '.' then do
      return (← texts.dropLast.mapM piece?) ++ (← quad? last)
    else texts.mapM piece?
  | none => some []

/-- The text before the first pair of colons and the text after it, if there is a pair. -/
def atDoubleColon (before : List Char) : List Char → Option (List Char × List Char)
  | ':' :: ':' :: rest => some (before.reverse, rest)
  | c :: rest => atDoubleColon (c :: before) rest
  | [] => none

/-- A 128-bit address: eight pieces, of which a pair of colons leaves out at least one that is
zero. -/
def ipv6? (cs : List Char) : Option Host :=
  match atDoubleColon [] cs with
  | some (left, right) => do
    let left ← pieces? false left
    let right ← pieces? true right
    if left.length + right.length < 8 then
      some (.ipv6 (left ++ List.replicate (8 - left.length - right.length) 0 ++ right))
    else none
  | none => do
    let pieces ← pieces? true cs
    if pieces.length = 8 then some (.ipv6 pieces) else none

def bracketed? (cs : List Char) : Option (Option Host) :=
  match cs with
  | '[' :: rest => some (if rest.getLast? = some ']' then ipv6? rest.dropLast else none)
  | _ => none

/-- The host of an address in one of the common schemes. Its name may hold escapes. -/
def ofText? (cs : List Char) : Option Host :=
  match bracketed? cs with
  | some host => host
  | none => do
    let name ← Domain.ofText? (← ofUtf8? (percentDecode cs))
    if name.isEmpty then none
    else if endsInNumber name then ipv4? name
    else some (.name name)

def breaksOpaque (c : Char) : Bool := "\x00\t\n\r #/:<>?@[\\]^|".toList.contains c

def beyondPrintable (c : Char) : Bool := c.toNat < 0x20 || 0x7E < c.toNat

/-- The host of an address in any other scheme; its name may be empty. -/
def ofOpaque? (cs : List Char) : Option Host :=
  match bracketed? cs with
  | some host => host
  | none => if cs.any breaksOpaque then none else some (.name (percentEncode beyondPrintable cs))

end Host

end Promotions.Url
