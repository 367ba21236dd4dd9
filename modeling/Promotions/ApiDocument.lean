import Promotions.Json.Value

/-!
The document that describes the service's paths and the values that go over them, for programs that
call it.
-/

namespace Promotions

open Json

namespace ApiDocument

/-! ### Schemas -/

def typed (name : String) : List (String × Value) := [("type", .text name)]

/-- The type of a value that may be null. -/
def typedOrNull (name : String) : List (String × Value) :=
  [("type", .array [.text name, .text "null"])]

def form (name : String) : List (String × Value) := [("format", .text name)]

def sample (v : Value) : List (String × Value) := [("example", v)]

def items (v : Value) : List (String × Value) := [("items", v)]

def reference (name : String) : Value :=
  .object [("$ref", .text ("#/components/schemas/" ++ name))]

def string : Value := .object (typed "string")

def stringOrNull : Value := .object (typedOrNull "string")

def identifier : Value := .object (typed "string" ++ form "uuid")

def moment : Value := .object (typed "string" ++ form "date-time")

def momentOrNull : Value := .object (typedOrNull "string" ++ form "date-time")

def long : Value := .object (typed "integer" ++ form "int64")

def intOrNull : Value := .object (typedOrNull "integer" ++ form "int32")

def arrayOf (v : Value) : Value := .object (typed "array" ++ items v)

def arrayOfOrNull (v : Value) : Value := .object (typedOrNull "array" ++ items v)

def anything : Value := .object (typed "object")

def oneOf (names : List String) : Value :=
  .object (typed "string" ++ [("enum", .array (names.map .text))])

/-- A record with its fields, some of which are always there. -/
def record (always : List String) (fields : List (String × Value)) : Value :=
  .object (typed "object"
    ++ (if always.isEmpty then [] else [("required", .array (always.map .text))])
    ++ [("properties", .object fields)])

def schemas : Value := .object [
  ("PromoMode", oneOf ["COMMON", "UNIQUE"]),
  ("Target", record [] [
    ("ageFrom", intOrNull),
    ("ageUntil", intOrNull),
    ("country", .object (typedOrNull "string" ++ sample (.text "RU"))),
    ("categories", arrayOf string)]),
  ("CodeSummary", record ["code", "activations", "maxCount"] [
    ("code", string),
    ("activations", long),
    ("maxCount", long)]),
  ("PromoDetail", record ["id", "companyId", "companyName", "mode", "description", "target",
      "createdAt", "codes", "activationsCount"] [
    ("id", identifier),
    ("companyId", identifier),
    ("companyName", string),
    ("mode", reference "PromoMode"),
    ("description", string),
    ("imageUrl", stringOrNull),
    ("target", reference "Target"),
    ("activeFrom", momentOrNull),
    ("activeUntil", momentOrNull),
    ("createdAt", moment),
    ("codes", arrayOf (reference "CodeSummary")),
    ("activationsCount", long)]),
  ("CreatedPromo", record ["id"] [("id", identifier)]),
  ("ActivationReason", oneOf ["OK", "NO_ACTIVATIONS_LEFT", "ANTIFRAUD"]),
  ("ActivationResponse", record ["success", "reason"] [
    ("success", .object (typed "boolean")),
    ("code", stringOrNull),
    ("reason", reference "ActivationReason")]),
  ("CreatePromoPayload", record [] [
    ("mode", .object (typed "string" ++ sample (.text "COMMON"))),
    ("promoCommon", .object (typedOrNull "string" ++ sample (.text "SUMMER25"))),
    ("promoUnique", arrayOfOrNull string),
    ("maxCount", .object (typedOrNull "integer" ++ form "int64" ++ sample (.int 100))),
    ("description", string),
    ("imageUrl", stringOrNull),
    ("target", reference "Target"),
    ("activeFrom", momentOrNull),
    ("activeUntil", momentOrNull)]),
  ("UpdatePromoPayload", record ["mode", "maxCount", "promoCommon", "promoUnique"] [
    ("description", string),
    ("imageUrl", stringOrNull),
    ("target", reference "Target"),
    ("activeFrom", momentOrNull),
    ("activeUntil", momentOrNull),
    ("mode", anything),
    ("maxCount", anything),
    ("promoCommon", anything),
    ("promoUnique", anything)])]

/-! ### Paths -/

def parameter (name place : String) (description : Option String) (required : Bool)
    (schema : Value) : Value := .object (
  [("name", .text name), ("in", .text place)]
    ++ (description.map fun d => ("description", .text d)).toList
    ++ [("required", .bool required), ("schema", schema)])

def callerParameter : Value :=
  parameter "x-company-id" "header" (some "ID da empresa dona") true identifier

def idParameter : Value := parameter "id" "path" (some "ID da promoção") true identifier

def listParameters : List Value := [
  parameter "countries" "query"
    (some "Países separados por vírgula (ex: `ru,us`). Vazio = todos.") false string,
  parameter "limit" "query" (some "Padrão 10, máximo 100.") false long,
  parameter "offset" "query" none false long,
  parameter "sortBy" "query"
    (some "`createdAt` (padrão), `activeFrom` ou `activeUntil`; sempre decrescente.") false
    string]

def content (schema : Value) : List (String × Value) :=
  [("content", .object [("application/json", .object [("schema", schema)])])]

def response (status description : String) (schema : Option Value) : String × Value :=
  (status, .object (("description", .text description)
    :: (schema.map content).getD []))

def operation (id : String) (parameters : List Value) (body : Option String)
    (responses : List (String × Value)) : Value := .object (
  [("tags", .array [.text "Promos"]), ("operationId", .text id),
   ("parameters", .array parameters)]
    ++ (body.map fun name =>
      ("requestBody", .object (content (reference name) ++ [("required", .bool true)]))).toList
    ++ [("responses", .object responses)])

def foreign : String × Value := response "403" "Promoção de outra empresa" none

def absent : String × Value := response "404" "Promoção não encontrada" none

def invalid : String × Value := response "400" "Erro de validação" none

def paths : Value := .object [
  ("/api/promos", .object [
    ("get", operation "list_promos" (listParameters ++ [callerParameter]) none [
      response "200" "Página de promoções (total no cabeçalho X-Total-Count)"
        (some (arrayOf (reference "PromoDetail")))]),
    ("post", operation "create_promo" [callerParameter] (some "CreatePromoPayload") [
      response "201" "Promoção criada" (some (reference "CreatedPromo")),
      invalid])]),
  ("/api/promos/\x7bid\x7d", .object [
    ("get", operation "get_promo" [idParameter, callerParameter] none [
      response "200" "Detalhe da promoção" (some (reference "PromoDetail")),
      foreign, absent]),
    ("delete", operation "delete_promo" [idParameter, callerParameter] none [
      response "204" "Promoção removida" none,
      foreign, absent]),
    ("patch", operation "update_promo" [idParameter, callerParameter]
      (some "UpdatePromoPayload") [
      response "204" "Promoção atualizada" none,
      invalid, foreign, absent])]),
  ("/api/promos/\x7bid\x7d/activate", .object [
    ("post", operation "activate_promo" [idParameter] none [
      response "200" "Resultado da ativação" (some (reference "ActivationResponse")),
      absent])])]

def info : Value := .object [
  ("title", .text "Promo Engine"),
  ("description",
    .text "Criação, consulta e resgate de promoções com códigos de desconto"),
  ("license", .object [("name", .text "")]),
  ("version", .text "0.1.0")]

end ApiDocument

def apiDocument : Value := .object [
  ("openapi", .text "3.1.0"),
  ("info", ApiDocument.info),
  ("paths", ApiDocument.paths),
  ("components", .object [("schemas", ApiDocument.schemas)]),
  ("tags", .array [.object [
    ("name", .text "Promos"),
    ("description", .text "Gestão e resgate de promoções")]])]

end Promotions
