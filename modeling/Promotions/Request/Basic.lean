import Promotions.Promotion.Basic
import Promotions.Json.Value

/-!
What owners ask for: a new promotion, or a change to one. The values stand as they were sent;
nothing is checked yet.
-/

namespace Promotions

structure CreateRequest where
  mode : String
  promoCommon : Option String
  promoUnique : Option (List String)
  maxCount : Option Int64
  content : Content

/-- A request to change a promotion. The codes and their mode are kept only to tell whether they
were sent: they never change. -/
structure UpdateRequest where
  content : Content
  mode : Option Json.Value
  maxCount : Option Json.Value
  promoCommon : Option Json.Value
  promoUnique : Option Json.Value

end Promotions
