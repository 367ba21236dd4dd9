import Promotions.ApiDocument
import Promotions.Http.Caller
import Promotions.Http.ListQuery
import Promotions.Http.MediaType
import Promotions.Http.Route
import Promotions.Promotion.Activation
import Promotions.Request.Text
import Promotions.Service.Basic
import Promotions.Text.Percent

/-!
The service as it answers requests. A request is understood step by step: the caller, then the
promotion that the path names, then the query or the body; the first step that fails is the answer.
-/

namespace Promotions.Http

open Json Text

def promotionId (segment : List Char) : Except Response Uuid :=
  match ofUtf8? (percentDecode segment) with
  | none => .error (.ofText 400 "Invalid URL: Invalid UTF-8 in `id`")
  | some cs =>
    match Uuid.read? cs with
    | some id => .ok id
    | none => .error (.ofText 400 "Invalid URL: Cannot parse `id`")

def callerOrRefusal (r : Request) : Except Response Uuid := r.caller.mapError .ofFailure

/-- What the body holds. A body that is no JSON and one of the wrong shape are refused
differently. -/
def bodyAs {α : Type} (parse : String → Except Fault α) (r : Request) : Except Response α :=
  if saysJson r then
    match parse r.body with
    | .ok a => .ok a
    | .error .mismatch =>
      .error (.ofText 422 "Failed to deserialize the JSON body into the target type")
    | .error _ => .error (.ofText 400 "Failed to parse the request body as JSON")
  else .error (.ofText 415 "Expected request with `Content-Type: application/json`")

def listQuery (r : Request) : Except Response ListQuery :=
  match ListQuery.read? r.query with
  | some q => .ok q
  | none => .error (.ofText 400 "Failed to deserialize query string")

/-- Goes on with what was understood of a request, or refuses it. -/
def understood {α : Type} (e : Except Response α) (k : α → Action Response) : Action Response :=
  match e with
  | .ok a => k a
  | .error r => return r

def answered {α : Type} (e : Except Failure α) (response : α → Response) : Response :=
  match e with
  | .ok a => response a
  | .error f => .ofFailure f

def create (r : Request) : Action Response :=
  understood (callerOrRefusal r) fun company =>
  understood (bodyAs CreateRequest.parse r) fun request => do
    let id ← Service.create company request
    return answered id fun id => .ofJson 201 (.object [("id", id.toJson)])

def list (r : Request) : Action Response :=
  understood (callerOrRefusal r) fun company =>
  understood (listQuery r) fun query =>
  understood ((Page.of? query.limit query.offset).mapError fun v => .ofFailure (.ofViolation v))
    fun page => do
      let countries := query.countryList
      match ← Service.list company countries page (.ofParameter query.sortBy) with
      | .error f => return .ofFailure f
      | .ok details =>
        let total ← Service.count company countries
        return answered total fun n =>
          { Response.ofJson 200 (.array (details.map Detail.toJson)) with totalCount := some n }

def get (r : Request) (segment : List Char) : Action Response :=
  understood (callerOrRefusal r) fun company =>
  understood (promotionId segment) fun id => do
    let detail ← Service.get id company
    return answered detail fun d => .ofJson 200 d.toJson

def update (r : Request) (segment : List Char) : Action Response :=
  understood (callerOrRefusal r) fun company =>
  understood (promotionId segment) fun id =>
  understood (bodyAs UpdateRequest.parse r) fun request => do
    let done ← Service.update id company request
    return answered done fun _ => { status := 204 }

def delete (r : Request) (segment : List Char) : Action Response :=
  understood (callerOrRefusal r) fun company =>
  understood (promotionId segment) fun id => do
    let done ← Service.delete id company
    return answered done fun _ => { status := 204 }

/-- What a customer is told of an activation, if it is not an error. -/
def activationReport : Except Failure String → Except Failure ActivationReport
  | .ok code => .ok (.granted code)
  | .error .exhausted => .ok (.refused .exhausted)
  | .error .rejectedByGate => .ok (.refused .rejectedByGate)
  | .error f => .error f

/-- Activates a promotion. Whoever calls may do so. -/
def activate (segment : List Char) : Action Response :=
  understood (promotionId segment) fun id => do
    let outcome ← Service.activate id
    return answered (activationReport outcome) fun report => .ofJson 200 report.toJson

def serve (r : Request) (method : String) : Route → Action Response
  | .health => return .ofText 200 "OK"
  | .document => return .ofJson 200 apiDocument
  | .promotions => if method = "POST" then create r else list r
  | .promotion segment =>
    if method = "PATCH" then update r segment
    else if method = "DELETE" then delete r segment
    else get r segment
  | .activation segment => activate segment

/-- The response to a request. A head is what would be fetched, without its body. -/
def respond (r : Request) : Action Response :=
  match Route.ofPath? r.path with
  | none => return { status := 404 }
  | some route =>
    if route.methods.contains r.method then
      if r.method = "HEAD" then do return (← serve r "GET" route).headOnly
      else serve r r.method route
    else return { status := 405, allow := some route.methods }

end Promotions.Http
