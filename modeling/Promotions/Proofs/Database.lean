import Promotions.Gate
import Promotions.Promotion.Country
import Promotions.Proofs.RowLocks

/-!
A database of two tables that answers statements one after another, as their texts say. What it
takes from a statement are the columns that its text names and the values of its parameters, both in
their order. The constraints that the tables are declared with are checked or not.
-/

namespace Promotions.Postgres

open Calendar
open Memory (hasRoom)

deriving instance DecidableEq for Parameter

/-- The columns that the text of a statement gives new values to, in the order of the parameters
that they come from. -/
def Statement.columns : Statement → List String
  | .insertPromotion id createdAt draft => (insertColumns id createdAt draft).map (·.1)
  | .updatePromotion _ content => (updateColumns content).map (·.1)
  | _ => []

/-! ### Values -/

namespace Parameter

def uuid? : Parameter → Option Uuid
  | .uuid u => some u
  | _ => none

def text? : Parameter → Option String
  | .text s => some s
  | _ => none

def int32? : Parameter → Option Int32
  | .integer n => some (.ofInt n)
  | _ => none

def moment? : Parameter → Option Instant
  | .moment i => some i
  | _ => none

def mode? : Parameter → Option Mode
  | .mode m => some m
  | _ => none

def texts? : Parameter → Option (List String)
  | .texts ss => some ss
  | _ => none

def nullable {α : Type} (read : Parameter → Option α) : Parameter → Option (Option α)
  | .null => some none
  | v => (read v).map some

/-! A check that is not false is passed, so that null passes all of them. -/

def between (low high : Int) : Parameter → Bool
  | .integer n => low ≤ n && n ≤ high
  | _ => true

def ascending : Parameter → Parameter → Bool
  | .integer a, .integer b => a ≤ b
  | _, _ => true

def earlier : Parameter → Parameter → Bool
  | .moment a, .moment b => a < b
  | _, _ => true

def noLonger (length : Nat) : Parameter → Bool
  | .text s => s.length ≤ length
  | _ => true

end Parameter

/-! ### Rows -/

abbrev Record := List (String × Parameter)

namespace Record

/-- The value of a column. One that was not given a value is null. -/
def column (r : Record) (name : String) : Parameter := (r.lookup name).getD .null

def id (r : Record) : Uuid := (r.column "id").uuid?.getD .nil

def set (r values : Record) : Record :=
  r.map fun (name, v) => (name, (values.lookup name).getD v)

/-- The constraints on a row, but for the one that its identifier is its own. -/
def valid (r : Record) : Bool :=
  (["id", "company_id", "description", "created_at", "mode", "target_categories"].all
      fun name => r.column name ≠ .null)
    && (r.column "target_age_from").between 0 100
    && (r.column "target_age_until").between 0 100
    && (r.column "target_country").noLonger 2
    && (r.column "active_from").earlier (r.column "active_until")
    && (r.column "target_age_from").ascending (r.column "target_age_until")

def row? (r : Record) (codes : List CodeCount) : Option Row := do
  some {
    id := ← (r.column "id").uuid?
    companyId := ← (r.column "company_id").uuid?
    description := ← (r.column "description").text?
    imageUrl := ← (r.column "image_url").nullable (·.text?)
    activeFrom := ← (r.column "active_from").nullable (·.moment?)
    activeUntil := ← (r.column "active_until").nullable (·.moment?)
    createdAt := ← (r.column "created_at").moment?
    mode := ← (r.column "mode").mode?
    targetAgeFrom := ← (r.column "target_age_from").nullable (·.int32?)
    targetAgeUntil := ← (r.column "target_age_until").nullable (·.int32?)
    targetCountry := ← (r.column "target_country").nullable (·.text?)
    targetCategories := ← (r.column "target_categories").texts?
    codes }

/-- Two moments, the later one first, and before both what has none. -/
def latestFirst : Option Instant → Option Instant → Ordering
  | none, none => .eq
  | none, some _ => .lt
  | some _, none => .gt
  | some a, some b => compare b.rank a.rank

def sortColumn (label : String) : String :=
  if label = "active_from" then "active_from"
  else if label = "active_until" then "active_until"
  else "created_at"

def before (label : String) (a b : Record) : Bool :=
  ((latestFirst (a.column (sortColumn label)).moment? (b.column (sortColumn label)).moment?).then
    (compare a.id.toNat b.id.toNat)).isLE

end Record

/-- The constraints on a row of the table of codes, but for those that look at other rows. -/
def CodeRow.valid (row : CodeRow) : Bool :=
  row.count.code.length ≤ 30 && 1 ≤ row.count.maxCount && 0 ≤ row.count.activations
    && row.count.activations ≤ row.count.maxCount

/-- New codes of a promotion, numbered from a number on. None of their activations is used. -/
def CodeRow.numbered (id : Uuid) : Int → List (String × Int) → List CodeRow
  | _, [] => []
  | number, (code, maxCount) :: rest =>
    ⟨number, id, ⟨code, 0, .ofInt maxCount⟩⟩ :: numbered id (number + 1) rest

/-! ### The database -/

/-- What may differ from one database to another. -/
structure Rules where
  /-- What the database makes of a text when it puts it into small letters. -/
  lower : String → String
  /-- The codes of countries it puts into small letters as everybody does. -/
  lower_country : ∀ code ∈ countryCodes, lower code = Text.lowerCase code
  /-- Whether the constraints are checked. -/
  constrained : Bool

/-- A database that checks its constraints and puts texts into small letters as everybody does. -/
def strict : Rules := ⟨Text.lowerCase, fun _ _ => rfl, true⟩

structure Database where
  promo : List Record := []
  promoCode : List CodeRow := []
  /-- The number of the next code. Numbers that were used are not used again, even if a transaction
  is rolled back. -/
  next : Int := 1
  /-- The tables before the transaction that is open. -/
  saved : Option (List Record × List CodeRow) := none

namespace Database

def violation : StorageCause := .database "constraint violated"

def having (db : Database) (id : Parameter) : List Record :=
  db.promo.filter fun r => r.column "id" = id

def codesOf (db : Database) (id : Parameter) : List CodeRow :=
  (db.promoCode.filter fun row => .uuid row.promotion = id).mergeSort fun a b =>
    a.number ≤ b.number

def fetch {α : Type} (read : Record → Option α) (rs : List Record) :
    Except StorageCause (List α) :=
  match rs.mapM read with
  | some as => .ok as
  | none => .error (.protocol "unexpected columns")

def details (db : Database) : List Record → Except StorageCause (List Row) :=
  fetch fun r => r.row? ((db.codesOf (r.column "id")).map (·.count))

/-- Whether a row belongs to a company and is meant for one of the countries, for any of them if
there are none. -/
def accepts (rules : Rules) (company : Parameter) (countries : List String) (r : Record) : Bool :=
  let country := r.column "target_country"
  r.column "company_id" = company && (countries.isEmpty || country = .null
    || country.text?.any fun c => countries.contains (rules.lower c))

def insertPromotion (rules : Rules) (db : Database) (r : Record) :
    Except StorageCause Nat × Database :=
  if rules.constrained && !(r.valid && (db.having (r.column "id")).isEmpty) then
    (.error violation, db)
  else (.ok 1, { db with promo := db.promo ++ [r] })

def insertCodes (rules : Rules) (db : Database) (id : Uuid) (codes : List (String × Int)) :
    Except StorageCause Nat × Database :=
  let rows := CodeRow.numbered id db.next codes
  let all := db.promoCode ++ rows
  if rules.constrained && !(rows.all (·.valid) && !(db.having (.uuid id)).isEmpty
      && decide ((all.filter (·.promotion = id)).map (·.count.code)).Nodup) then
    (.error violation, { db with next := db.next + rows.length })
  else (.ok rows.length, { db with promoCode := all, next := db.next + rows.length })

def updatePromotion (rules : Rules) (db : Database) (id : Parameter) (values : Record) :
    Except StorageCause Nat × Database :=
  if rules.constrained && !((db.having id).all fun r => (r.set values).valid) then
    (.error violation, db)
  else
    (.ok (db.having id).length,
      { db with promo := db.promo.map fun r => if r.column "id" = id then r.set values else r })

def deletePromotion (db : Database) (id : Parameter) : Database :=
  { db with
    promo := db.promo.filter fun r => r.column "id" ≠ id
    promoCode := db.promoCode.filter fun row => .uuid row.promotion ≠ id }

def redeemable (number : Int) (row : CodeRow) : Bool := row.number = number && hasRoom row.count

def redeemCode (rules : Rules) (db : Database) (number : Int) :
    Except StorageCause Nat × Database :=
  let hit := db.promoCode.filter (redeemable number)
  if rules.constrained && !(hit.all (·.redeem.valid)) then (.error violation, db)
  else
    (.ok hit.length,
      { db with promoCode := db.promoCode.map fun row =>
                  if redeemable number row then row.redeem else row })

/-- The first code of a promotion that has activations left, if one has. Nobody else locks any. -/
def freeCode (db : Database) (id : Parameter) : List (Int × String) :=
  (((db.codesOf id).filter fun row => hasRoom row.count).take 1).map fun row =>
    (row.number, row.count.code)

/-- The reply to a statement with its parameters, and the database after it. -/
def reply (rules : Rules) (db : Database) :
    (s : Statement) → List Parameter → Except StorageCause s.Reply × Database
  | .begin, _ => (.ok (), { db with saved := some (db.promo, db.promoCode) })
  | .commit, _ => (.ok (), { db with saved := none })
  | .rollback, _ =>
    match db.saved with
    | some (promo, promoCode) => (.ok (), { db with promo, promoCode, saved := none })
    | none => (.ok (), db)
  | .insertPromotion id createdAt draft, values =>
    db.insertPromotion rules ((Statement.insertPromotion id createdAt draft).columns.zip values)
  | .insertCodes _ _, [.uuid id, .texts codes, .integers maxCounts] =>
    db.insertCodes rules id (codes.zip maxCounts)
  | .selectPromotion _, [id] => (db.details (db.having id), db)
  | .selectPromotions _ _ _,
      [company, .texts countries, .text label, .integer limit, .integer offset] =>
    let listing := (db.promo.filter (accepts rules company countries)).mergeSort (·.before label ·)
    (db.details ((listing.drop offset.toNat).take limit.toNat), db)
  | .countPromotions _, [company, .texts countries] =>
    (.ok [((db.promo.filter (accepts rules company countries)).length : Int)], db)
  | .lockOwner _, [id] => (fetch (fun r => (r.column "company_id").uuid?) (db.having id), db)
  | .updatePromotion id content, key :: values =>
    db.updatePromotion rules key ((Statement.updatePromotion id content).columns.zip values)
  | .deletePromotion _, [id] => (.ok (db.having id).length, db.deletePromotion id)
  | .selectFreeCode _ _, [id] => (.ok (db.freeCode id), db)
  | .promotionExists _, [id] => (.ok [!(db.having id).isEmpty], db)
  | .redeemCode _, [.integer number] => db.redeemCode rules number
  | _, _ => (.error (.database "parameters do not fit"), db)

/-- The answer to a question, where the gate is asked about codes, and what is left of both. -/
def answer (rules : Rules) :
    (q : Question) → Database × ScriptedGate → q.Answer × Database × ScriptedGate
  | .send s, (db, gate) =>
    let (reply, db) := db.reply rules s s.parameters
    (reply, db, gate)
  | .gate id code, (db, gate) =>
    let (refused, gate) := gate.decide id code
    (refused, db, gate)

end Database

end Promotions.Postgres
