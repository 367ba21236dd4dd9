import Promotions.Text.Blank
import Promotions.Text.Form
import Promotions.Text.Numeral
import Promotions.Text.Pieces

/-!
The query of a listing. A name that it knows may be given once; other names do not matter.
-/

namespace Promotions.Http

open Text

structure ListQuery where
  countries : Option String := none
  limit : Option Int64 := none
  offset : Option Int64 := none
  sortBy : Option String := none

namespace ListQuery

def int64? (s : String) : Option Int64 :=
  match Text.integer minInt64 maxInt64 s.toList with
  | .ok n => some (Int64.ofInt n)
  | .error _ => none

/-- The query with one more named value; none if the name was given before or the value does not
fit. -/
def add (q : ListQuery) (name value : String) : Option ListQuery :=
  if name = "countries" then
    if q.countries.isSome then none else some { q with countries := some value }
  else if name = "limit" then
    if q.limit.isSome then none else (int64? value).map fun n => { q with limit := some n }
  else if name = "offset" then
    if q.offset.isSome then none else (int64? value).map fun n => { q with offset := some n }
  else if name = "sortBy" then
    if q.sortBy.isSome then none else some { q with sortBy := some value }
  else some q

def read? (cs : List Char) : Option ListQuery :=
  (formPairs cs).foldlM (fun q (name, value) => q.add name value) {}

/-- The countries between the commas, without blanks around them. Blank ones are left out. -/
def countryList (q : ListQuery) : List String :=
  ((pieces (· = ',') (q.countries.getD "").toList).map fun c => trim (String.ofList c)).filter
    fun c => !c.isEmpty

end ListQuery

end Promotions.Http
