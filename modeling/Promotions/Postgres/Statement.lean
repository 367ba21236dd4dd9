import Promotions.Failure
import Promotions.Listing
import Promotions.Postgres.Row
import Promotions.Promotion.Draft

/-!
The statements that are sent to the database, with their text, their parameters and the kind of
reply to each. Moments are sent as numbers of microseconds.
-/

namespace Promotions.Postgres

open Calendar

inductive Parameter where
  | null
  | uuid (u : Uuid)
  | text (s : String)
  | integer (n : Int)
  | moment (i : Instant)
  | mode (m : Mode)
  | texts (ss : List String)
  | integers (ns : List Int)

namespace Parameter

def orNull : Option Parameter → Parameter := (·.getD .null)

def ofInstant (i : Instant) : Parameter := .moment (i.toMicros?.getD i)

end Parameter

inductive Statement where
  | begin
  | commit
  | rollback
  | insertPromotion (id : Uuid) (createdAt : Instant) (draft : Draft)
  | insertCodes (id : Uuid) (codes : List NewCode)
  | selectPromotion (id : Uuid)
  | selectPromotions (filter : Filter) (page : Page) (key : SortKey)
  | countPromotions (filter : Filter)
  /-- Locks a promotion and gives its owner. -/
  | lockOwner (id : Uuid)
  | updatePromotion (id : Uuid) (content : Content)
  | deletePromotion (id : Uuid)
  /-- Locks the first code that has activations left; locked ones are passed over or waited for. -/
  | selectFreeCode (id : Uuid) (waits : Bool)
  | promotionExists (id : Uuid)
  | redeemCode (row : Int)

namespace Statement

/-- What comes back when a statement succeeds: nothing, the number of affected rows, or the rows of
a result. -/
abbrev Reply : Statement → Type
  | .begin | .commit | .rollback => Unit
  | .insertPromotion _ _ _ | .insertCodes _ _ | .updatePromotion _ _ | .deletePromotion _
  | .redeemCode _ => Nat
  | .selectPromotion _ | .selectPromotions _ _ _ => List Row
  | .countPromotions _ => List Int
  | .lockOwner _ => List Uuid
  | .selectFreeCode _ _ => List (Int × String)
  | .promotionExists _ => List Bool

def insertColumns (id : Uuid) (createdAt : Instant) (draft : Draft) : List (String × Parameter) :=
  let content := draft.content
  let target := content.target
  [("id", .uuid id),
   ("company_id", .uuid draft.companyId),
   ("description", .text content.description),
   ("image_url", .orNull (content.imageUrl.map .text)),
   ("active_from", .orNull (content.activeFrom.map .ofInstant)),
   ("active_until", .orNull (content.activeUntil.map .ofInstant)),
   ("created_at", .ofInstant createdAt),
   ("mode", .mode draft.budget.mode),
   ("target_age_from", .orNull (target.ageFrom.map fun n => .integer n.toInt)),
   ("target_age_until", .orNull (target.ageUntil.map fun n => .integer n.toInt)),
   ("target_country", .orNull (target.country.map .text)),
   ("target_categories", .texts target.categories)]

def updateColumns (content : Content) : List (String × Parameter) :=
  let target := content.target
  [("description", .text content.description),
   ("image_url", .orNull (content.imageUrl.map .text)),
   ("target_age_from", .orNull (target.ageFrom.map fun n => .integer n.toInt)),
   ("target_age_until", .orNull (target.ageUntil.map fun n => .integer n.toInt)),
   ("target_country", .orNull (target.country.map .text)),
   ("target_categories", .texts target.categories),
   ("active_from", .orNull (content.activeFrom.map .ofInstant)),
   ("active_until", .orNull (content.activeUntil.map .ofInstant))]

/-- The names of the parameters from a number on. -/
def dollars (first count : Nat) : List String :=
  (List.range' first count).map fun n => "$" ++ toString n

def commas (ss : List String) : String := ", ".intercalate ss

def details : String :=
  "SELECT p.id, p.company_id, p.description, p.image_url, p.active_from, p.active_until, "
  ++ "p.created_at, p.mode, p.target_age_from, p.target_age_until, p.target_country, "
  ++ "p.target_categories, COALESCE( json_agg(json_build_object( 'code', pc.code, "
  ++ "'activations', pc.activations, 'maxCount', pc.max_count ) ORDER BY pc.id) "
  ++ "FILTER (WHERE pc.id IS NOT NULL), '[]' ) AS codes "
  ++ "FROM promo p LEFT JOIN promo_code pc ON pc.promo_id = p.id"

/-- The condition of a filter: no countries asked for, no country set, or one of them. -/
def accepted : String :=
  "p.company_id = $1 AND (cardinality($2::text[]) = 0 OR p.target_country IS NULL "
  ++ "OR lower(p.target_country) = ANY($2::text[]))"

/-- The order of a listing and the part of it that a page shows. -/
def orderAndPage : String :=
  "ORDER BY CASE $3::text WHEN 'active_from' THEN p.active_from "
  ++ "WHEN 'active_until' THEN p.active_until ELSE p.created_at END DESC NULLS FIRST, p.id "
  ++ "LIMIT $4 OFFSET $5"

def text : Statement → String
  | .begin => "BEGIN"
  | .commit => "COMMIT"
  | .rollback => "ROLLBACK"
  | .insertPromotion id createdAt draft =>
    let columns := insertColumns id createdAt draft
    "INSERT INTO promo ( " ++ commas (columns.map (·.1)) ++ " ) VALUES ("
      ++ commas (dollars 1 columns.length) ++ ")"
  | .insertCodes _ _ =>
    "INSERT INTO promo_code (promo_id, code, max_count) SELECT $1::uuid, t.code, t.max_count "
    ++ "FROM UNNEST($2::text[], $3::bigint[]) WITH ORDINALITY AS t(code, max_count, ord) "
    ++ "ORDER BY t.ord"
  | .selectPromotion _ => details ++ " WHERE p.id = $1 GROUP BY p.id"
  | .selectPromotions _ _ _ =>
    details ++ " WHERE " ++ accepted ++ " GROUP BY p.id " ++ orderAndPage
  | .countPromotions _ => "SELECT COUNT(*) FROM promo p WHERE " ++ accepted
  | .lockOwner _ => "SELECT company_id FROM promo WHERE id = $1 FOR UPDATE"
  | .updatePromotion _ content =>
    let columns := updateColumns content
    "UPDATE promo SET "
      ++ commas ((columns.zip (dollars 2 columns.length)).map fun (c, d) => c.1 ++ " = " ++ d)
      ++ " WHERE id = $1"
  | .deletePromotion _ => "DELETE FROM promo WHERE id = $1"
  | .selectFreeCode _ waits =>
    "SELECT id, code FROM promo_code WHERE promo_id = $1 AND activations < max_count "
    ++ "ORDER BY id LIMIT 1 FOR UPDATE" ++ (if waits then "" else " SKIP LOCKED")
  | .promotionExists _ => "SELECT EXISTS (SELECT 1 FROM promo WHERE id = $1)"
  | .redeemCode _ =>
    "UPDATE promo_code SET activations = activations + 1 WHERE id = $1 AND activations < max_count"

def parameters : Statement → List Parameter
  | .begin | .commit | .rollback => []
  | .insertPromotion id createdAt draft => (insertColumns id createdAt draft).map (·.2)
  | .insertCodes id codes =>
    [.uuid id, .texts (codes.map (·.code)), .integers (codes.map (·.maxCount.toInt))]
  | .selectPromotion id | .lockOwner id | .deletePromotion id | .selectFreeCode id _
  | .promotionExists id => [.uuid id]
  | .selectPromotions filter page key =>
    [.uuid filter.companyId, .texts filter.countries, .text key.label, .integer page.limit,
     .integer page.offset]
  | .countPromotions filter => [.uuid filter.companyId, .texts filter.countries]
  | .updatePromotion id content => .uuid id :: (updateColumns content).map (·.2)
  | .redeemCode row => [.integer row]

end Statement

end Promotions.Postgres
