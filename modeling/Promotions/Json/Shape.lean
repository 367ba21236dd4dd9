import Promotions.Json.Value

/-!
Readers of values of a wanted shape: strings, integers, lists, optional values, and records. A
record is described by its fields; it is read from an object, by the names of the members in any
order, or from an array, by their positions. Members with other names are passed over; a member
that is given twice, or one that is missing where it must be given, is a mismatch.
-/

namespace Promotions.Json

/-- The fault of a value that has another shape than the one wanted. A literal, number or string is
read to its end first, so a fault within it comes before the mismatch. -/
def wrongShape (cs : List Char) : Fault :=
  match dispatch (fun _ => ()) (fun cs => do let (_, rest) ← keptNumeral cs; .ok ((), rest))
      (fun cs => do let (_, rest) ← textBody cs; .ok ((), rest)) (fun _ => .error .mismatch) cs with
  | .ok _ => .mismatch
  | .error f => f

def text : Reader String := fun cs =>
  match skipGaps cs with
  | '"' :: rest => textBody rest
  | cs => .error (wrongShape cs)

def integer (low high : Int) : Reader Int := fun cs =>
  match skipGaps cs with
  | c :: rest =>
    if c = '-' ∨ c.isDigit then do
      let (n, rest) ← keptNumeral (c :: rest)
      match n.integer? with
      | some i => if low ≤ i ∧ i ≤ high then .ok (i, rest) else .error .mismatch
      | none => .error .mismatch
    else .error (wrongShape (c :: rest))
  | [] => .error .truncated

def int32 : Reader Int32 := fun cs => do
  let (n, rest) ← integer Int32.minValue.toInt Int32.maxValue.toInt cs
  .ok (Int32.ofInt n, rest)

def int64 : Reader Int64 := fun cs => do
  let (n, rest) ← integer Int64.minValue.toInt Int64.maxValue.toInt cs
  .ok (Int64.ofInt n, rest)

/-- A string that a function turns into a value; one that it does not is a mismatch. -/
def textAs {α : Type} (read? : String → Option α) : Reader α := fun cs => do
  let (s, rest) ← text cs
  match read? s with
  | some a => .ok (a, rest)
  | none => .error .mismatch

def optional {α : Type} (read : Reader α) : Reader (Option α) := fun cs =>
  match skipGaps cs with
  | 'n' :: rest => do .ok (none, ← word "ull".toList rest)
  | cs => do
    let (a, rest) ← read cs
    .ok (some a, rest)

def list {α : Type} (read : Reader α) : Reader (List α) := fun cs =>
  match skipGaps cs with
  | '[' :: rest => do
    let item (as : List α) : Reader (List α) := fun cs => do
      let (a, cs) ← read cs
      .ok (a :: as, cs)
    let (as, rest) ← arrayRest item (rest.length + 1) true [] rest
    .ok (as.reverse, rest)
  | cs => .error (wrongShape cs)

/-- One of several named constants: its name as a string, or an object whose only member has the
name and the value null. -/
def constant {α : Type} (read? : String → Option α) : Reader α := fun cs =>
  match skipGaps cs with
  | [] => .error .truncated
  | '"' :: rest => textAs read? ('"' :: rest)
  | '\x7b' :: rest =>
    match skipGaps rest with
    | [] => .error .truncated
    | '"' :: rest => do
      let (a, rest) ← textAs read? ('"' :: rest)
      let rest ← colon rest
      match skipGaps rest with
      | 'n' :: rest =>
        let rest ← word "ull".toList rest
        match skipGaps rest with
        | '\x7d' :: rest => .ok (a, rest)
        | [] => .error .truncated
        | _ => .error .malformed
      | rest => .error (wrongShape rest)
    | _ => .error .malformed
  | _ => .error .malformed

inductive Absence (α : Type) where
  /-- The field must be given. -/
  | required
  /-- Its value when no member of an object has its name. An array must hold it. -/
  | named (a : α)
  /-- Its value when no member has its name, and when an array ends before it. -/
  | anywhere (a : α)

namespace Absence

variable {α : Type}

/-- The value of a field that no member of an object gives. -/
def inObject? : Absence α → Option α
  | .required => none
  | .named a => some a
  | .anywhere a => some a

/-- The value of a field before which an array ends. -/
def inArray? : Absence α → Option α
  | .anywhere a => some a
  | _ => none

end Absence

/-- How records of type `α` are read. -/
structure Shape (Field : Type) (Content : Field → Type) (α : Type) where
  /-- The fields in the order of an array. -/
  fields : List Field
  /-- The name of the member that gives a field. -/
  name : Field → String
  /-- The reader of a field, told how many arrays and objects may lie inside one another there. -/
  read : (f : Field) → (levels : Nat) → Reader (Content f)
  /-- What stands for a field that is not given. -/
  absent : (f : Field) → Absence (Content f)
  /-- The record with the given fields; none when one that it needs has no value. -/
  assemble : ((f : Field) → Option (Content f)) → Option α

abbrev Given {Field : Type} (Content : Field → Type) := (f : Field) → Option (Content f)

namespace Given

variable {Field : Type} [DecidableEq Field] {Content : Field → Type}

def empty : Given Content := fun _ => none

def set (g : Given Content) (f : Field) (v : Content f) : Given Content := fun f' =>
  if h : f' = f then some (h ▸ v) else g f'

end Given

namespace Shape

variable {Field : Type} [DecidableEq Field] {Content : Field → Type} {α : Type}

def member (shape : Shape Field Content α) (levels : Nat) (name : String) (g : Given Content) :
    Except Fault (Reader (Given Content)) :=
  match shape.fields.find? fun f => shape.name f == name with
  | none => .ok fun cs => do .ok (g, ← skipValue cs)
  | some f =>
    if (g f).isSome then .error .mismatch
    else .ok fun cs => do
      let (v, cs) ← shape.read f levels cs
      .ok (g.set f v, cs)

def ofMembers (shape : Shape Field Content α) (g : Given Content) : Except Fault α :=
  match shape.assemble fun f => (g f).orElse fun _ => (shape.absent f).inObject? with
  | some a => .ok a
  | none => .error .mismatch

def ofObject (shape : Shape Field Content α) (levels : Nat) : Reader α := fun cs => do
  let (g, rest) ← objectRest textBody (shape.member levels) (cs.length + 1) true Given.empty cs
  .ok (← shape.ofMembers g, rest)

/-- The given fields from the items of an array. An array that ends early must leave out only
fields that stand for themselves there; one that goes on is malformed. -/
def items (shape : Shape Field Content α) (levels : Nat) :
    List Field → (first : Bool) → Given Content → Reader (Given Content)
  | [], _, g, cs =>
    match skipGaps cs with
    | ']' :: rest => .ok (g, rest)
    | [] => .error .truncated
    | _ => .error .malformed
  | f :: fs, first, g, cs => do
    match ← next ']' first cs with
    | .item cs =>
      let (v, cs) ← shape.read f levels cs
      shape.items levels fs false (g.set f v) cs
    | .close _ =>
      match (shape.absent f).inArray? with
      | some v => shape.items levels fs first (g.set f v) cs
      | none => .error .mismatch

def ofArray (shape : Shape Field Content α) (levels : Nat) : Reader α := fun cs => do
  let (g, rest) ← shape.items levels shape.fields true Given.empty cs
  match shape.assemble g with
  | some a => .ok (a, rest)
  | none => .error .mismatch

def reader (shape : Shape Field Content α) : (levels : Nat) → Reader α := fun levels cs =>
  match skipGaps cs, levels with
  | '[' :: rest, levels + 1 => shape.ofArray levels rest
  | '\x7b' :: rest, levels + 1 => shape.ofObject levels rest
  | '[' :: _, 0 => .error .malformed
  | '\x7b' :: _, 0 => .error .malformed
  | cs, _ => .error (wrongShape cs)

end Shape

/-- The number of arrays and objects that may lie inside one another in a value that is kept. -/
def maxLevels : Nat := 127

/-- The value of a whole text, with nothing but white space behind it. -/
def parse {α : Type} (read : (levels : Nat) → Reader α) (s : String) : Except Fault α := do
  let (a, rest) ← read maxLevels s.toList
  if (skipGaps rest).isEmpty then .ok a else .error .malformed

end Promotions.Json
