import Promotions.Http.Message
import Promotions.Text.Blank
import Promotions.Text.Utf8
import Promotions.Uuid

/-!
Who calls: the company whose identifier stands in a header. Only the first header of the name
counts, and the nil identifier names no company.
-/

namespace Promotions.Http

open Text

/-- The text of a header's value, which is given as bytes. Only printable ASCII and tabs can be
read. -/
def readableText? (value : List UInt8) : Option String :=
  if value.all fun b => b = 9 || (0x20 ≤ b && b ≤ 0x7E) then
    some (String.ofList (value.map fun b => Char.ofNat b.toNat))
  else none

/-- The company that the values of the header name. -/
def callerOf (values : List (List UInt8)) : Except Failure Uuid :=
  match values with
  | [] => .error .unknownCaller
  | value :: _ =>
    match (readableText? value).bind fun s => Uuid.ofString? (trim s) with
    | some id => if id = .nil then .error .unknownCaller else .ok id
    | none => .error .unknownCaller

def Request.caller (r : Request) : Except Failure Uuid :=
  callerOf ((r.valuesOf "x-company-id").map utf8)

end Promotions.Http
