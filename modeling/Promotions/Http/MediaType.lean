import Promotions.Http.Message

/-!
Media types: a type and a subtype with a slash between them, and parameters behind semicolons. A
body is read as JSON when its type is `application` and its subtype is `json` or ends in `+json`.
-/

namespace Promotions.Http

/-- A media type, in small letters. What follows the last plus sign of the subtype is its suffix. -/
structure MediaType where
  type : List Char
  subtype : List Char
  suffix : Option (List Char)
  deriving DecidableEq

namespace MediaType

def isToken (c : Char) : Bool := c.isAlphanum || "!#$%&'*+-.^_\x60|~".toList.contains c

/-- The characters of a quoted value. A backslash is one of them, without a meaning of its own. -/
def isQuotable (c : Char) : Bool := 0x20 ≤ c.toNat && c.toNat ≠ 0x7F

/-- The text after a quoted value whose opening quote is past. A quote that comes first belongs to
the value; any other one ends it. -/
def afterQuoted (first : Bool) : List Char → Option (List Char)
  | [] => none
  | c :: cs =>
    if c = '"' ∧ ¬first then some cs else if isQuotable c then afterQuoted false cs else none

/-- Whether the text after a semicolon consists of parameters, at most as many as `bound`. Blanks
may stand before a name and behind a quoted value. -/
def parametersFit : (bound : Nat) → List Char → Bool
  | 0, _ => false
  | bound + 1, cs =>
    match cs.dropWhile (· = ' ') with
    | [] => true
    | cs =>
      match cs.takeWhile isToken, cs.dropWhile isToken with
      | _ :: _, '=' :: '"' :: rest =>
        match afterQuoted true rest with
        | none => false
        | some rest =>
          match rest.dropWhile (· = ' ') with
          | [] => true
          | ';' :: rest => parametersFit bound rest
          | _ => false
      | _ :: _, '=' :: rest =>
        match rest.takeWhile isToken, rest.dropWhile isToken with
        | _, [] => true
        | _ :: _, ';' :: rest => parametersFit bound rest
        | _, _ => false
      | _, _ => false

/-- The subtype taken apart at its last plus sign, unless it starts with that. -/
def splitSuffix (cs : List Char) : List Char × Option (List Char) :=
  let suffix := (cs.reverse.takeWhile (· ≠ '+')).reverse
  match cs.length - suffix.length - 1 with
  | 0 => (cs, none)
  | n => (cs.take n, some suffix)

def ofText? (cs : List Char) : Option MediaType :=
  match cs.takeWhile isToken, cs.dropWhile isToken with
  | t :: type, '/' :: rest =>
    let subtype := rest.takeWhile isToken
    let (name, suffix) := splitSuffix (subtype.map Char.toLower)
    let found : MediaType := ⟨(t :: type).map Char.toLower, name, suffix⟩
    match subtype, rest.dropWhile isToken with
    | _, [] => some found
    | _ :: _, ';' :: parameters =>
      if parametersFit (parameters.length + 1) parameters then some found else none
    | _, _ => none
  | _, _ => none

def isJson (m : MediaType) : Bool :=
  m.type = "application".toList && (m.subtype = "json".toList || m.suffix = some "json".toList)

end MediaType

/-- Whether the first header that gives the type of the body says that it is JSON. -/
def saysJson (r : Request) : Bool :=
  match r.valuesOf "content-type" with
  | value :: _ => readableValue value && (MediaType.ofText? value.toList).any MediaType.isJson
  | [] => false

end Promotions.Http
