import Promotions.Proofs.Representation
import Promotions.Supply

/-!
What passed validation keeps the constraints of the tables, save for one. Moments are sent to the
microsecond, and with a leap second counted as the second after it, so that a period which is in
order may be sent as one that is not. Everything else is sent as it was checked.
-/

namespace Promotions

open Calendar

/-! ### Periods as they are sent -/

namespace Calendar.Instant

def sent (i : Instant) : Instant := i.toMicros?.getD i

theorem Whole.sent_eq {i : Instant} (h : i.Whole) : i.sent = i := by
  rw [sent, h.toMicros?, Option.getD_some]

/-- Outside leap seconds, and from the year 2000 on, an instant is cut down to its microsecond. -/
theorem rank_sent {i : Instant} (hleap : i.time.nano < nanosPerSecond)
    (hsince : i.sinceMillennium = true) : i.sent.rank = i.rank / 1000 * 1000 := by
  have hsecond : i.time.second ≠ 60 := Nat.ne_of_lt i.time.second_lt
  have hnano : i.time.nano - i.time.nano % 1000 < nanosPerSecond :=
    Nat.lt_of_le_of_lt (Nat.sub_le _ _) hleap
  simp only [sent, toMicros?, withoutLeap?, hleap, if_true, hsince, Option.bind_eq_bind,
    Option.bind_some, Bool.not_true, Bool.and_false, Bool.false_eq_true, if_false, Nat.add_zero,
    hnano, Time.of?, hsecond, i.time.hour_lt, i.time.minute_lt, i.time.second_lt, true_and,
    true_or, dif_pos, Option.map_some, Option.getD_some, rank]
  omega

end Calendar.Instant

/-- The end of the period comes after its start, where both are set, also as they are sent. -/
def Content.SentInOrder (c : Content) : Prop :=
  ∀ start finish, c.activeFrom = some start → c.activeUntil = some finish →
    start.sent < finish.sent

namespace Content.SentInOrder

/-- So it is for a period in order whose moments are sent as they are. -/
theorem of_whole {c : Content} (hc : c.WellFormed) (h : c.Whole) : c.SentInOrder := by
  intro start finish hstart hfinish
  rw [(h.1 start hstart).sent_eq, (h.2 finish hfinish).sent_eq]
  exact hc.period start finish hstart hfinish

/-- Outside leap seconds, and from the year 2000 on, a period is sent in order exactly if it ends in
a later microsecond than it starts in. -/
theorem iff_microseconds {c : Content} {start finish : Instant} (hstart : c.activeFrom = some start)
    (hfinish : c.activeUntil = some finish)
    (hleaps : start.time.nano < nanosPerSecond ∧ finish.time.nano < nanosPerSecond)
    (hsince : start.sinceMillennium = true ∧ finish.sinceMillennium = true) :
    c.SentInOrder ↔ start.rank / 1000 < finish.rank / 1000 := by
  have hsent : start.sent < finish.sent ↔ start.rank / 1000 < finish.rank / 1000 := by
    change start.sent.rank < finish.sent.rank ↔ _
    rw [Instant.rank_sent hleaps.1 hsince.1, Instant.rank_sent hleaps.2 hsince.2]
    omega
  rw [← hsent]
  refine ⟨fun h => h start finish hstart hfinish, fun h _ _ hstart' hfinish' => ?_⟩
  rw [hstart, Option.some.injEq] at hstart'
  rw [hfinish, Option.some.injEq] at hfinish'
  exact hstart' ▸ hfinish' ▸ h

end Content.SentInOrder

namespace Postgres

theorem Parameter.ofInstant_eq (i : Instant) : ofInstant i = .moment i.sent := rfl

/-- The check that the database makes on the period compares the moments as they are sent. -/
theorem Parameter.earlier_iff_sentInOrder (c : Content) :
    (orNull (c.activeFrom.map ofInstant)).earlier (orNull (c.activeUntil.map ofInstant)) = true ↔
      c.SentInOrder := by
  unfold Content.SentInOrder
  cases c.activeFrom with
  | none => simp [orNull, earlier]
  | some start =>
    cases c.activeUntil with
    | none => simp [orNull, earlier, ofInstant_eq]
    | some finish => simp [orNull, earlier, ofInstant_eq]

instance (c : Content) : Decidable c.SentInOrder :=
  decidable_of_iff _ (Parameter.earlier_iff_sentInOrder c)

namespace Record

/-! ### Rows as they are written -/

/-- Setting columns changes the values of columns that are there, and adds none. -/
theorem lookup_set (r values : Record) (name : String) :
    (Record.set r values).lookup name =
      (r.lookup name).map fun v => (values.lookup name).getD v := by
  induction r with
  | nil => rfl
  | cons entry r ih =>
    obtain ⟨name', v⟩ := entry
    change List.lookup name ((name', _) :: Record.set r values) = _
    by_cases hname : name = name'
    · subst hname
      simp
    · have hne : (name == name') = false := beq_false_of_ne hname
      simpa [List.lookup_cons, hne] using ih

def columnNames : List String :=
  ["id", "company_id", "description", "image_url", "active_from", "active_until", "created_at",
    "mode", "target_age_from", "target_age_until", "target_country", "target_categories"]

/-- A row of the table of promotions in which nothing is missing that does not change. -/
structure Complete (r : Record) : Prop where
  has : ∀ name ∈ columnNames, (r.lookup name).isSome
  kept : ∀ name ∈ ["id", "company_id", "created_at", "mode"], r.column name ≠ .null

def inserted (id : Uuid) (createdAt : Instant) (draft : Draft) : Record :=
  (Statement.insertPromotion id createdAt draft).columns.zip
    (Statement.insertPromotion id createdAt draft).parameters

def updated (id : Uuid) (content : Content) : Record :=
  (Statement.updatePromotion id content).columns.zip ((Statement.updateColumns content).map (·.2))

theorem inserted_eq (id : Uuid) (createdAt : Instant) (draft : Draft) :
    inserted id createdAt draft = Statement.insertColumns id createdAt draft :=
  List.zip_of_prod rfl rfl

theorem updated_eq (id : Uuid) (content : Content) :
    updated id content = Statement.updateColumns content :=
  List.zip_of_prod rfl rfl

/-- A new row has all the columns, and none of those that must be set is null. -/
theorem complete_inserted (id : Uuid) (createdAt : Instant) (draft : Draft) :
    (inserted id createdAt draft).Complete := by
  rw [inserted_eq]
  constructor
  · simp [columnNames, Statement.insertColumns, List.lookup]
  · simp [column, Statement.insertColumns, List.lookup, Parameter.ofInstant]

namespace Complete

variable {r : Record} (h : r.Complete)
include h

/-- What a change does not set stays. -/
theorem column_set (values : Record) {name : String} (hname : name ∈ columnNames) :
    (r.set values).column name = (values.lookup name).getD (r.column name) := by
  obtain ⟨v, hv⟩ := Option.isSome_iff_exists.mp (h.has name hname)
  simp only [column, lookup_set, hv, Option.map_some, Option.getD_some]

/-- A change leaves a row complete. -/
theorem set (id : Uuid) (content : Content) : (r.set (updated id content)).Complete := by
  constructor
  · intro name hname
    rw [lookup_set, Option.isSome_map]
    exact h.has name hname
  · intro name hname
    have hmem : name ∈ columnNames := by
      revert name
      decide
    have hkept : (updated id content).lookup name = none := by
      rw [updated_eq]
      simp only [List.mem_cons, List.not_mem_nil, or_false] at hname
      rcases hname with rfl | rfl | rfl | rfl <;> simp [Statement.updateColumns, List.lookup]
    rw [h.column_set _ hmem, hkept, Option.getD_none]
    exact h.kept name hname

end Complete

/-- A new promotion that passed validation keeps the constraints exactly if its period is sent in
order. -/
theorem valid_inserted_iff {draft : Draft} (h : draft.content.WellFormed) (id : Uuid)
    (createdAt : Instant) :
    (inserted id createdAt draft).valid = true ↔ draft.content.SentInOrder := by
  have hset : ∀ name ∈ ["id", "company_id", "description", "created_at", "mode",
      "target_categories"], (inserted id createdAt draft).column name ≠ .null := by
    simp [inserted_eq, column, Statement.insertColumns, List.lookup, Parameter.ofInstant]
  rw [valid_iff_earlier h.target hset rfl rfl rfl]
  exact Parameter.earlier_iff_sentInOrder draft.content

/-- So does a changed promotion. -/
theorem Complete.valid_set_iff {r : Record} (h : r.Complete) {content : Content}
    (hcontent : content.WellFormed) (id : Uuid) :
    (r.set (updated id content)).valid = true ↔ content.SentInOrder := by
  have hcolumn {name : String} {v : Parameter} (hname : name ∈ columnNames)
      (hv : (updated id content).lookup name = some v) :
      (r.set (updated id content)).column name = v := by
    rw [h.column_set _ hname, hv, Option.getD_some]
  have hset : ∀ name ∈ ["id", "company_id", "description", "created_at", "mode",
      "target_categories"], (r.set (updated id content)).column name ≠ .null := by
    intro name hname
    by_cases hkept : name ∈ ["id", "company_id", "created_at", "mode"]
    · exact (h.set id content).kept name hkept
    · obtain rfl | rfl : name = "description" ∨ name = "target_categories" := by
        simp only [List.mem_cons, List.not_mem_nil, or_false] at hname hkept
        tauto
      · rw [hcolumn (v := .text content.description) (by decide) rfl]
        exact fun h => by cases h
      · rw [hcolumn (v := .texts content.target.categories) (by decide) rfl]
        exact fun h => by cases h
  rw [valid_iff_earlier hcontent.target hset (hcolumn (by decide) rfl) (hcolumn (by decide) rfl)
    (hcolumn (by decide) rfl), hcolumn (by decide) rfl, hcolumn (by decide) rfl]
  exact Parameter.earlier_iff_sentInOrder content

end Record

/-! ### What the database says -/

namespace Database

/-- What a database comes to that starts empty and answers statements. -/
inductive Reached (rules : Rules) : Database → Prop
  | empty : Reached rules {}
  | reply {db : Database} (h : Reached rules db) (s : Statement) :
      Reached rules (db.reply rules s s.parameters).2

/-- Every row is complete, also of the tables that a rollback would go back to. -/
structure Complete (db : Database) : Prop where
  promo : ∀ r ∈ db.promo, r.Complete
  saved : ∀ tables, db.saved = some tables → ∀ r ∈ tables.1, r.Complete

/-- A statement leaves the rows complete, whichever it is. -/
theorem Complete.reply {rules : Rules} {db : Database} (h : db.Complete) (s : Statement) :
    (db.reply rules s s.parameters).2.Complete := by
  cases s with
  | begin =>
    refine ⟨h.promo, ?_⟩
    rintro _ ⟨⟩
    exact h.promo
  | commit => exact ⟨h.promo, nofun⟩
  | rollback =>
    simp only [Database.reply]
    split
    · rename_i promo promoCode hsaved
      exact ⟨h.saved _ hsaved, nofun⟩
    · exact h
  | insertPromotion id createdAt draft =>
    simp only [Database.reply, insertPromotion]
    split
    · exact h
    · refine ⟨fun r hr => ?_, h.saved⟩
      rcases List.mem_append.mp hr with hr | hr
      · exact h.promo r hr
      · rw [List.mem_singleton.mp hr]
        exact Record.complete_inserted id createdAt draft
  | insertCodes id codes =>
    simp only [Database.reply, Statement.parameters, insertCodes]
    split
    · exact ⟨h.promo, h.saved⟩
    · exact ⟨h.promo, h.saved⟩
  | updatePromotion id content =>
    simp only [Database.reply, Statement.parameters, updatePromotion]
    split
    · exact h
    · refine ⟨fun r hr => ?_, h.saved⟩
      obtain ⟨before, hbefore, rfl⟩ := List.mem_map.mp hr
      split
      · exact (h.promo before hbefore).set id content
      · exact h.promo before hbefore
  | deletePromotion id =>
    exact ⟨fun r hr => h.promo r (List.mem_of_mem_filter hr), h.saved⟩
  | redeemCode row =>
    simp only [Database.reply, Statement.parameters, redeemCode]
    split
    · exact h
    · exact ⟨h.promo, h.saved⟩
  | _ => exact h

/-- Every row is complete in a database that has come about by statements. -/
theorem Reached.complete {rules : Rules} {db : Database} (h : Reached rules db) :
    db.Complete := by
  induction h with
  | empty =>
    constructor
    · exact List.forall_mem_nil _
    · exact nofun
  | reply h s ih => exact ih.reply s

section

variable {rules : Rules} (hconstrained : rules.constrained = true) {db : Database}
include hconstrained

/-- A new promotion is refused exactly if its row breaks a constraint. -/
theorem reply_insertPromotion {id : Uuid} (hnew : db.having (.uuid id) = [])
    (createdAt : Instant) {draft : Draft} (h : draft.content.WellFormed) :
    (db.reply rules (.insertPromotion id createdAt draft)
        (Statement.insertPromotion id createdAt draft).parameters).1 =
      if draft.content.SentInOrder then .ok 1 else .error violation := by
  have hvalid := Record.valid_inserted_iff h id createdAt
  change (db.insertPromotion rules (Record.inserted id createdAt draft)).1 = _
  have hid : (Record.inserted id createdAt draft).column "id" = .uuid id := rfl
  by_cases hsent : draft.content.SentInOrder
  · simp [insertPromotion, hid, hnew, hvalid.mpr hsent, hsent]
  · have hbroken : (Record.inserted id createdAt draft).valid = false := by
      simpa using mt hvalid.mp hsent
    simp [insertPromotion, hconstrained, hbroken, hsent]

/-- A change is refused exactly if there is a row that it would make break a constraint. -/
theorem reply_updatePromotion (hdb : db.Complete) (id : Uuid) {content : Content}
    (h : content.WellFormed) :
    (db.reply rules (.updatePromotion id content)
        (Statement.updatePromotion id content).parameters).1 =
      if db.having (.uuid id) = [] ∨ content.SentInOrder then .ok (db.having (.uuid id)).length
      else .error violation := by
  change (db.updatePromotion rules (.uuid id) (Record.updated id content)).1 = _
  have hvalid : ∀ r ∈ db.having (.uuid id),
      ((r.set (Record.updated id content)).valid = true ↔ content.SentInOrder) :=
    fun r hr => (hdb.promo r (List.mem_of_mem_filter hr)).valid_set_iff h id
  have hall : (db.having (.uuid id)).all (fun r => (r.set (Record.updated id content)).valid) =
      true ↔ db.having (.uuid id) = [] ∨ content.SentInOrder := by
    rw [List.all_eq_true]
    cases hrows : db.having (.uuid id) with
    | nil => simp
    | cons r rows =>
      rw [hrows] at hvalid
      constructor
      · intro hkept
        exact Or.inr ((hvalid r List.mem_cons_self).mp (hkept r List.mem_cons_self))
      · rintro (hnone | hsent)
        · cases hnone
        · exact fun r' hr' => (hvalid r' hr').mpr hsent
  by_cases hkept : db.having (.uuid id) = [] ∨ content.SentInOrder
  · simp only [updatePromotion, hall.mpr hkept, hkept, Bool.not_true, Bool.and_false,
      Bool.false_eq_true, if_false, if_true]
  · have hbroken : (db.having (.uuid id)).all
        (fun r => (r.set (Record.updated id content)).valid) = false := by
      simpa only [Bool.not_eq_true] using mt hall.mp hkept
    simp only [updatePromotion, hbroken, hconstrained, hkept, Bool.not_false, Bool.and_true,
      if_true, if_false]

end

end Database

/-- What passed validation is refused for breaking a constraint exactly if its period is sent out of
order. A new promotion and every change are taken otherwise, and the codes of a new promotion are
always taken. Periods are sent in order whose moments are whole microseconds, and, outside leap
seconds and from the year 2000 on, all that end in a later microsecond than they start in. -/
theorem validated_refused_iff_sent_out_of_order {rules : Rules}
    (hconstrained : rules.constrained = true) {db : Database} (hdb : Database.Reached rules db)
    (id : Uuid) :
    (∀ (r : CreateRequest) (company : Uuid) (draft : Draft), r.draft company = .ok draft →
      (db.having (.uuid id) = [] → ∀ createdAt,
        (db.reply rules (.insertPromotion id createdAt draft)
            (Statement.insertPromotion id createdAt draft).parameters).1 =
          if draft.content.SentInOrder then .ok 1 else .error Database.violation) ∧
      (db.having (.uuid id) ≠ [] → db.promoCode.filter (·.promotion = id) = [] →
        (db.reply rules (.insertCodes id draft.budget.pool)
            (Statement.insertCodes id draft.budget.pool).parameters).1 =
          .ok draft.budget.pool.length)) ∧
    (∀ (r : UpdateRequest) (content : Content), r.changes = .ok content →
      (db.reply rules (.updatePromotion id content)
          (Statement.updatePromotion id content).parameters).1 =
        if db.having (.uuid id) = [] ∨ content.SentInOrder then .ok (db.having (.uuid id)).length
        else .error Database.violation) ∧
    (∀ content : Content, content.WellFormed → content.Whole → content.SentInOrder) ∧
    ∀ (content : Content) (start finish : Instant), content.activeFrom = some start →
      content.activeUntil = some finish →
      start.time.nano < nanosPerSecond ∧ finish.time.nano < nanosPerSecond →
      start.sinceMillennium = true ∧ finish.sinceMillennium = true →
        (content.SentInOrder ↔ start.rank / 1000 < finish.rank / 1000) := by
  refine ⟨fun r company draft hdraft => ⟨?_, ?_⟩, fun r content hchanges => ?_, ?_, ?_⟩
  · intro hnew createdAt
    have hcontent := (CreateRequest.wellFormed_of_draft hdraft).content
    exact Database.reply_insertPromotion hconstrained hnew createdAt hcontent
  · intro hthere hfirst
    obtain ⟨hdistinct, hcodes⟩ := (CreateRequest.wellFormed_of_draft hdraft).codes.fit
    have hpairs : (draft.budget.pool.map (·.code)).zip (draft.budget.pool.map (·.maxCount.toInt)) =
        draft.budget.pool.map fun c => (c.code, c.maxCount.toInt) := List.zip_map'
    have htaken := Database.insertCodes_of_fit rules hthere hfirst hdistinct hcodes
    rw [← hpairs] at htaken
    change (db.insertCodes rules id _).1 = _
    rw [htaken]
    simp only [hpairs, CodeRow.length_numbered, List.length_map]
  · exact Database.reply_updatePromotion hconstrained hdb.complete id
      (UpdateRequest.wellFormed_of_changes hchanges)
  · exact fun content => Content.SentInOrder.of_whole
  · exact fun content start finish => Content.SentInOrder.iff_microseconds

/-- So many nanoseconds after midnight of the first day. -/
def pastMidnight (nano : Nat) : Option Instant :=
  (Time.of? 0 0 0 nano).map (⟨Supply.firstDay, ·⟩)

/-- A request for a promotion that lasts from the first number of nanoseconds after midnight to the
second. -/
def briefRequest (first last : Nat) : CreateRequest :=
  ⟨"UNIQUE", none, some ["ONE", "TWO"], none,
    ⟨"Dez por cento", none, {}, pastMidnight first, pastMidnight last⟩⟩

def briefDraft (first last : Nat) : Draft :=
  ⟨Supply.idAt 7, (briefRequest first last).content, .unique ["ONE", "TWO"]⟩

/-- A period that lasts longer than a microsecond is taken by the database. -/
theorem brief_promotion_taken :
    (({} : Database).reply strict
        (.insertPromotion (Supply.idAt 1) (Supply.timeAt 1) (briefDraft 100 1200))
        (Statement.insertPromotion (Supply.idAt 1) (Supply.timeAt 1)
          (briefDraft 100 1200)).parameters).1 = .ok 1 := by
  have hdraft : (briefRequest 100 1200).draft (Supply.idAt 7) = .ok (briefDraft 100 1200) := by
    decide +kernel
  have hconstrained : strict.constrained = true := rfl
  obtain ⟨hcreated, -⟩ :=
    validated_refused_iff_sent_out_of_order hconstrained .empty (Supply.idAt 1)
  rw [(hcreated _ _ _ hdraft).1 rfl (Supply.timeAt 1), if_pos (by decide +kernel)]

/-- To end a tenth of a microsecond after the start is enough for validation, but not for the
database, to which both are sent as midnight. -/
theorem brief_promotion_refused :
    (briefRequest 100 200).draft (Supply.idAt 7) = .ok (briefDraft 100 200) ∧
      (pastMidnight 100).map Instant.sent = some (Supply.timeAt 0) ∧
      (pastMidnight 200).map Instant.sent = some (Supply.timeAt 0) ∧
      (({} : Database).reply strict
          (.insertPromotion (Supply.idAt 1) (Supply.timeAt 1) (briefDraft 100 200))
          (Statement.insertPromotion (Supply.idAt 1) (Supply.timeAt 1)
            (briefDraft 100 200)).parameters).1 = .error Database.violation := by
  have hdraft : (briefRequest 100 200).draft (Supply.idAt 7) = .ok (briefDraft 100 200) := by
    decide +kernel
  have hcontent := (CreateRequest.wellFormed_of_draft hdraft).content
  have hconstrained : strict.constrained = true := rfl
  refine ⟨hdraft, by decide +kernel, by decide +kernel, ?_⟩
  rw [Database.reply_insertPromotion hconstrained rfl (Supply.timeAt 1) hcontent,
    if_neg (by decide +kernel)]

end Postgres

end Promotions
