import Promotions.Proofs.Listings
import Promotions.Proofs.Database
import Promotions.Proofs.Validity

/-!
Promotions as rows of a table. Values that are sent for columns arrive in the columns that they are
meant for, and a row tells of its promotion all that it is asked: what it is, whether it keeps the
constraints, whether a filter accepts it, and where it stands in a listing.
-/

namespace Promotions

open Calendar

/-! ### Moments that a database keeps -/

/-- A whole number of microseconds, and not in a leap second. -/
def Calendar.Instant.Whole (i : Instant) : Prop :=
  i.time.nano < nanosPerSecond ∧ i.time.nano % 1000 = 0

instance (i : Instant) : Decidable i.Whole := inferInstanceAs (Decidable (_ ∧ _))

def Content.Whole (c : Content) : Prop :=
  (∀ i, c.activeFrom = some i → i.Whole) ∧ ∀ i, c.activeUntil = some i → i.Whole

theorem Calendar.Instant.Whole.toMicros? {i : Instant} (h : i.Whole) : i.toMicros? = some i := by
  obtain ⟨hleap, hcut⟩ := h
  have hsecond : i.time.shownSecond = i.time.second := if_pos hleap
  have hnano : i.time.shownNano = i.time.nano := Nat.mod_eq_of_lt hleap
  have hshown := Time.of?_shown i.time
  rw [hsecond, hnano] at hshown
  simp [Instant.toMicros?, Instant.withoutLeap?, hleap, hcut, hshown]

namespace Postgres

/-! ### Countries in small letters -/

/-- A database puts the country of a content into small letters as everybody does. -/
def Rules.Lowers (rules : Rules) (c : Content) : Prop :=
  ∀ code, c.target.country = some code → rules.lower code = Text.lowerCase code

theorem Rules.lowers_of_wellFormed (rules : Rules) {c : Content} (h : c.WellFormed) :
    rules.Lowers c :=
  fun code hcode => rules.lower_country code (h.target.country code hcode)

/-! ### Values sent and read -/

namespace Parameter

theorem ofInstant_of_whole {i : Instant} (h : i.Whole) : ofInstant i = .moment i := by
  simp [ofInstant, h.toMicros?]

theorem ofInstants_of_whole {o : Option Instant} (h : ∀ i, o = some i → i.Whole) :
    o.map ofInstant = o.map .moment := by
  cases o with
  | none => rfl
  | some i => simp [ofInstant_of_whole (h i rfl)]

@[simp] theorem uuid?_uuid (u : Uuid) : (uuid u).uuid? = some u := rfl

@[simp] theorem text?_text (s : String) : (text s).text? = some s := rfl

@[simp] theorem int32?_integer (n : Int32) : (integer n.toInt).int32? = some n := by
  simp [int32?]

@[simp] theorem moment?_moment (i : Instant) : (moment i).moment? = some i := rfl

@[simp] theorem mode?_mode (m : Mode) : (mode m).mode? = some m := rfl

@[simp] theorem texts?_texts (ss : List String) : (texts ss).texts? = some ss := rfl

@[simp] theorem moment?_orNull (o : Option Instant) : (orNull (o.map moment)).moment? = o := by
  cases o <;> rfl

/-- What may be null is read as it was sent, if values are. -/
theorem nullable_orNull {α : Type} {read : Parameter → Option α} {f : α → Parameter}
    (hread : ∀ a, read (f a) = some a) (hnull : ∀ a, f a ≠ .null) (o : Option α) :
    nullable read (orNull (o.map f)) = some o := by
  cases o with
  | none => rfl
  | some a =>
    have hsome : nullable read (f a) = (read (f a)).map some := by
      unfold nullable
      split
      · rename_i h
        exact absurd h (hnull a)
      · rfl
    rw [Option.map_some, orNull, Option.getD_some, hsome, hread, Option.map_some]

end Parameter

namespace Record

def of (p : Promotion) : Record :=
  [("id", .uuid p.id),
   ("company_id", .uuid p.companyId),
   ("description", .text p.content.description),
   ("image_url", .orNull (p.content.imageUrl.map .text)),
   ("active_from", .orNull (p.content.activeFrom.map .moment)),
   ("active_until", .orNull (p.content.activeUntil.map .moment)),
   ("created_at", .moment p.createdAt),
   ("mode", .mode p.mode),
   ("target_age_from", .orNull (p.content.target.ageFrom.map fun n => .integer n.toInt)),
   ("target_age_until", .orNull (p.content.target.ageUntil.map fun n => .integer n.toInt)),
   ("target_country", .orNull (p.content.target.country.map .text)),
   ("target_categories", .texts p.content.target.categories)]

@[simp] theorem column_id (p : Promotion) : (of p).column "id" = .uuid p.id := rfl

/-! ### Rows written -/

/-- What is sent for a new promotion makes up its row. -/
theorem columns_insertPromotion (id : Uuid) {createdAt : Instant} {draft : Draft}
    (hcreated : createdAt.Whole) (hcontent : draft.content.Whole) (codes : List NewCode) :
    (Statement.insertPromotion id createdAt draft).columns.zip
        (Statement.insertPromotion id createdAt draft).parameters =
      of (draft.promotion id createdAt codes) := by
  simp [Statement.columns, Statement.parameters, Statement.insertColumns, of, Draft.promotion,
    Parameter.ofInstant_of_whole hcreated, Parameter.ofInstants_of_whole hcontent.1,
    Parameter.ofInstants_of_whole hcontent.2]

/-- What is sent for a change makes up the row of the changed promotion. -/
theorem set_columns_updatePromotion (id : Uuid) (p : Promotion) {content : Content}
    (hcontent : content.Whole) :
    (of p).set ((Statement.updatePromotion id content).columns.zip
        ((Statement.updateColumns content).map (·.2))) =
      of { p with content } := by
  simp [Statement.columns, Statement.updateColumns, of, set, List.lookup,
    Parameter.ofInstants_of_whole hcontent.1, Parameter.ofInstants_of_whole hcontent.2]

/-! ### Rows read -/

/-- A row is read as the promotion that it is the row of. -/
theorem row?_of (p : Promotion) (codes : List CodeCount) :
    (of p).row? codes = some (Row.of { p with codes }) := by
  have htext (o : Option String) : (Parameter.orNull (o.map .text)).nullable (·.text?) = some o :=
    Parameter.nullable_orNull (f := .text) (fun _ => rfl) (fun _ => nofun) o
  have hmoment (o : Option Instant) :
      (Parameter.orNull (o.map .moment)).nullable (·.moment?) = some o :=
    Parameter.nullable_orNull (f := .moment) (fun _ => rfl) (fun _ => nofun) o
  have hinteger (o : Option Int32) :
      (Parameter.orNull (o.map fun n => .integer n.toInt)).nullable (·.int32?) = some o :=
    Parameter.nullable_orNull Parameter.int32?_integer (fun _ => nofun) o
  simp [row?, of, column, List.lookup, htext, hmoment, hinteger, Row.of]

/-- For a row whose target keeps the rules, the one constraint left is that on its period. -/
theorem valid_iff_earlier {r : Record} {t : Target} (h : t.WellFormed)
    (hset : ∀ name ∈ ["id", "company_id", "description", "created_at", "mode",
      "target_categories"], r.column name ≠ .null)
    (hfrom : r.column "target_age_from" = .orNull (t.ageFrom.map fun n => .integer n.toInt))
    (huntil : r.column "target_age_until" = .orNull (t.ageUntil.map fun n => .integer n.toInt))
    (hcountry : r.column "target_country" = .orNull (t.country.map .text)) :
    r.valid = true ↔ (r.column "active_from").earlier (r.column "active_until") = true := by
  have hage (o : Option Int32) (ho : ∀ age, o = some age → 0 ≤ age ∧ age ≤ 100) :
      (Parameter.orNull (o.map fun n => .integer n.toInt)).between 0 100 = true := by
    cases o with
    | none => rfl
    | some age =>
      simpa [Parameter.orNull, Parameter.between, Int32.le_iff_toInt_le] using ho age rfl
  have hages : (Parameter.orNull (t.ageFrom.map fun n => .integer n.toInt)).ascending
      (.orNull (t.ageUntil.map fun n => .integer n.toInt)) = true := by
    have hordered := h.ages
    cases hlow : t.ageFrom with
    | none => rfl
    | some low =>
      cases hhigh : t.ageUntil with
      | none => rfl
      | some high =>
        simpa [Parameter.orNull, Parameter.ascending, Int32.le_iff_toInt_le] using
          hordered low high hlow hhigh
  have hshort : (Parameter.orNull (t.country.map .text)).noLonger 2 = true := by
    cases hcode : t.country with
    | none => rfl
    | some code =>
      have hlength := (capitals_of_mem_countryCodes code (h.country code hcode)).1
      simp [Parameter.orNull, Parameter.noLonger, hlength]
  have hnull : ["id", "company_id", "description", "created_at", "mode", "target_categories"].all
      (fun name => decide (r.column name ≠ .null)) = true :=
    List.all_eq_true.mpr fun name hname => decide_eq_true (hset name hname)
  rw [valid, hnull, hfrom, huntil, hcountry, hage _ h.ageFrom, hage _ h.ageUntil, hages, hshort]
  simp

/-- The row of a promotion that keeps the rules keeps the constraints. -/
theorem valid_of {p : Promotion} (h : p.content.WellFormed) : (of p).valid = true := by
  have hperiod : (Parameter.orNull (p.content.activeFrom.map .moment)).earlier
      (.orNull (p.content.activeUntil.map .moment)) = true := by
    have hordered := h.period
    cases hstart : p.content.activeFrom with
    | none => rfl
    | some start =>
      cases hfinish : p.content.activeUntil with
      | none => rfl
      | some finish =>
        simpa [Parameter.orNull, Parameter.earlier] using hordered start finish hstart hfinish
  exact (valid_iff_earlier h.target (by simp [of, column, List.lookup]) rfl rfl rfl).mpr hperiod

/-- Rows stand in a listing as their promotions do. -/
theorem before_of (key : SortKey) (p q : Promotion) :
    (of p).before key.label (of q) = key.before p q := by
  have hmoment (p : Promotion) :
      ((of p).column (sortColumn key.label)).moment? = key.moment? p := by
    cases key <;> simp [sortColumn, SortKey.label, of, column, List.lookup, SortKey.moment?]
  have hid (p : Promotion) : (of p).id = p.id := rfl
  rw [before, hmoment, hmoment, hid, hid, Bool.eq_iff_iff, SortKey.before_iff, SortKey.place,
    SortKey.place]
  cases key.moment? p with
  | none => cases key.moment? q <;> simp [latestFirst, Nat.isLE_compare]
  | some a =>
    cases key.moment? q with
    | none => simp [latestFirst]
    | some b =>
      have heq : b.rank = a.rank ↔ a.rank = b.rank := eq_comm
      simp [latestFirst, Ordering.isLE_then_iff_or, Int.compare_eq_lt, Nat.isLE_compare, heq]

/-- A filter accepts the rows of the promotions that it accepts. -/
theorem accepts_of {rules : Rules} (filter : Filter) {p : Promotion}
    (hlower : rules.Lowers p.content) :
    Database.accepts rules (.uuid filter.companyId) filter.countries (of p) = filter.accepts p := by
  cases hcountry : p.content.target.country with
  | none =>
    simp [Database.accepts, Filter.accepts, of, column, List.lookup, hcountry, Parameter.orNull]
  | some c =>
    simp [Database.accepts, Filter.accepts, of, column, List.lookup, hcountry, Parameter.orNull,
      hlower c hcountry]

end Record

end Postgres

end Promotions
