import Promotions.Uuid

/-!
The keys under which the cache keeps the text of a promotion and the number of times that this text
was declared stale.
-/

namespace Promotions

/-- The key of a promotion's text. -/
def detailKey (id : Uuid) : String := "promo:detail:" ++ toString id

def generationKey (key : String) : String := key ++ ":gen"

end Promotions
