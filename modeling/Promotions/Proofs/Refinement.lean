import Promotions.Memory.Environment
import Promotions.Proofs.Representation

/-!
The store in the database is the store in memory. A database that answers statements one after
another, as their texts say, holds the promotions that the store in memory holds, and request by
request both answer the same, with a gate that decides in the same way for both.
-/

namespace Promotions

open Memory (Store Environment hasRoom redeemed nextCode? redeemNext)

namespace Postgres

open Exchange

variable {rules : Rules} {db db' : Database} {gate gate' : ScriptedGate}

/-! ### Transactions -/

theorem run_step {α : Type} (rules : Rules) (db : Database) (gate : ScriptedGate) (name : String)
    (s : Statement) (k : Except Failure s.Reply → Exchange α) :
    (step name s >>= k).run (Database.answer rules) (db, gate) =
      (k ((db.reply rules s s.parameters).1.mapError (.storage name))).run (Database.answer rules)
        ((db.reply rules s s.parameters).2, gate) := rfl

theorem run_refused {α : Type} (rules : Rules) (db : Database) (gate : ScriptedGate) (id : Uuid)
    (code : String) (k : Bool → Exchange α) :
    (refused id code >>= k).run (Database.answer rules) (db, gate) =
      (k (gate.decide id code).1).run (Database.answer rules) (db, (gate.decide id code).2) := rfl

def Database.opened (db : Database) : Database := { db with saved := some (db.promo, db.promoCode) }

/-- How a transaction ends after the verdict on its work. -/
def Verdict.concluded {α : Type} (v : Verdict α) (rules : Rules) (db : Database) :
    Except Failure α × Database :=
  match v with
  | keep a => (.ok a, { db with saved := none })
  | giveUp f => (.error f, (db.reply rules .rollback []).2)
  | gone f => (.error f, db)

section

variable {α : Type} {operation : String} {work : Exchange (Verdict α)} {v : Verdict α} {a : α}
  {f : Failure}

/-- A transaction is its work on opened tables, ended as the verdict on it says. -/
theorem run_transaction
    (h : work.run (Database.answer rules) (db.opened, gate) = (v, db', gate')) :
    (transaction operation work).run (Database.answer rules) (db, gate) =
      ((v.concluded rules db').1, (v.concluded rules db').2, gate') := by
  rw [transaction, run_step]
  change (work >>= _).run (Database.answer rules) (db.opened, gate) = _
  rw [Dialogue.run_bind, h]
  cases v <;> rfl

theorem run_transaction_keep
    (h : work.run (Database.answer rules) (db.opened, gate) = (.keep a, db', gate')) :
    (transaction operation work).run (Database.answer rules) (db, gate) =
      (.ok a, { db' with saved := none }, gate') :=
  run_transaction h

theorem run_transaction_gone
    (h : work.run (Database.answer rules) (db.opened, gate) = (.gone f, db', gate')) :
    (transaction operation work).run (Database.answer rules) (db, gate) = (.error f, db', gate') :=
  run_transaction h

/-- Work that is given up with nothing changed leaves nothing changed. -/
theorem run_transaction_giveUp
    (h : work.run (Database.answer rules) (db.opened, gate) = (.giveUp f, db.opened, gate')) :
    (transaction operation work).run (Database.answer rules) (db, gate) =
      (.error f, { db with saved := none }, gate') :=
  run_transaction h

end

/-! ### Requests one by one -/

namespace Represents

variable {s : Store} {id company : Uuid}

theorem opened (h : Represents rules db s) : Represents rules db.opened s := h.saving _

/-- The tables find the promotion that the store has, and stay as they are. -/
theorem run_find (h : Represents rules db s) (id : Uuid) (gate : ScriptedGate) :
    (Repository.find id).run (Database.answer rules) (db, gate) =
      (.ok (s.find? id), db, gate) := by
  have hrows : db.details (db.having (.uuid id)) = .ok ((s.find? id).toList.map Row.of) := by
    have hlist : ((s.find? id).map Record.of).toList = (s.find? id).toList.map Record.of := by
      cases s.find? id <;> rfl
    rw [h.having_eq, hlist]
    exact h.details_eq fun p hp => List.mem_of_find?_eq_some (Option.mem_toList.mp hp)
  have hreply : db.reply rules (.selectPromotion id) [.uuid id] =
      (db.details (db.having (.uuid id)), db) := rfl
  rw [Repository.find, run_step]
  simp only [Statement.parameters, hreply, hrows]
  cases s.find? id <;> rfl

/-- The tables list what the store lists, in the same order. -/
theorem run_list (h : Represents rules db s) (filter : Filter) (page : Page) (key : SortKey)
    (gate : ScriptedGate) :
    (Repository.list filter page key).run (Database.answer rules) (db, gate) =
      (.ok (s.list filter page key), db, gate) := by
  have hsorted : ((s.promotions.filter filter.accepts).map Record.of).mergeSort
      (Record.before key.label) = (s.listing filter key).map Record.of :=
    (List.map_mergeSort fun p _ q _ => (Record.before_of key p q).symm).symm
  have hpage : ((s.listing filter key).map Record.of |>.drop page.offset |>.take page.limit) =
      (s.list filter page key).map Record.of := by
    simp [Store.list, Page.cut]
  have hmem : ∀ p ∈ s.list filter page key, p ∈ s.promotions := by
    intro p hp
    have hlisted := List.mem_of_mem_drop (List.mem_of_mem_take hp)
    exact List.mem_of_mem_filter (List.mem_mergeSort.mp hlisted)
  have hreply : db.reply rules (.selectPromotions filter page key)
      (Statement.selectPromotions filter page key).parameters =
        (.ok ((s.list filter page key).map Row.of), db) := by
    simp only [Statement.parameters, Database.reply, h.filter_accepts, Int.toNat_natCast]
    rw [hsorted, hpage, h.details_eq hmem]
  have hread : ((s.list filter page key).map Row.of).map Row.promotion =
      s.list filter page key := by
    rw [List.map_map]
    exact List.map_id' _
  rw [Repository.list, run_step, hreply]
  change (Except.ok (((s.list filter page key).map Row.of).map Row.promotion), db, gate) = _
  rw [hread]

/-- The tables count what the store counts. -/
theorem run_count (h : Represents rules db s) (filter : Filter) (gate : ScriptedGate) :
    (Repository.count filter).run (Database.answer rules) (db, gate) =
      (.ok (s.count filter : Int), db, gate) := by
  have hreply : db.reply rules (.countPromotions filter)
      (Statement.countPromotions filter).parameters = (.ok [(s.count filter : Int)], db) := by
    simp only [Statement.parameters, Database.reply, h.filter_accepts, List.length_map, Store.count]
  rw [Repository.count, run_step, hreply]
  rfl

theorem lockOwner_eq (h : Represents rules db s) (id : Uuid) :
    db.reply rules (.lockOwner id) [.uuid id] =
      (.ok ((s.find? id).map (·.companyId)).toList, db) := by
  have hreply : db.reply rules (.lockOwner id) [.uuid id] =
      (Database.fetch (fun r => (r.column "company_id").uuid?) (db.having (.uuid id)), db) := rfl
  rw [hreply, h.having_eq]
  cases s.find? id <;> rfl

theorem ensureOwner_eq (s : Store) (id company : Uuid) :
    Repository.ensureOwner ((s.find? id).map (·.companyId)).toList.head? company =
      s.owned id company := by
  unfold Store.owned
  cases s.find? id <;> rfl

/-- Who does not own a promotion changes nothing. -/
theorem run_asOwner_of_error (h : Represents rules db s) {f : Failure}
    (howned : s.owned id company = .error f) (operation : String) (change : Statement)
    (gate : ScriptedGate) :
    (Repository.asOwner operation id company change).run (Database.answer rules) (db, gate) =
      (.error f, { db with saved := none }, gate) := by
  apply run_transaction_giveUp
  rw [run_step, Statement.parameters, h.opened.lockOwner_eq id]
  simp only [Except.mapError, ensureOwner_eq, howned]
  rfl

/-- The owner's change is made. -/
theorem run_asOwner (h : Represents rules db s) (howned : s.owned id company = .ok ())
    (operation : String) {change : Statement} {n : change.Reply}
    (hchange : db.opened.reply rules change change.parameters = (.ok n, db'))
    (gate : ScriptedGate) :
    (Repository.asOwner operation id company change).run (Database.answer rules) (db, gate) =
      (.ok (), { db' with saved := none }, gate) := by
  apply run_transaction_keep
  rw [run_step, Statement.parameters, h.opened.lockOwner_eq id]
  simp only [Except.mapError, ensureOwner_eq, howned]
  rw [run_step, hchange]
  rfl

/-- The owner's change gives a promotion new content. -/
theorem gives_update (h : Represents rules db s) {content : Content} (hwhole : content.Whole)
    (hlower : rules.Lowers content) (hvalid : rules.constrained = true → content.WellFormed)
    (gate : ScriptedGate) :
    ∃ db', (Repository.update id company content).run (Database.answer rules) (db, gate) =
      ((s.update id company content).1, db', gate) ∧
        Represents rules db' (s.update id company content).2 := by
  unfold Store.update
  cases howned : s.owned id company with
  | error f => exact ⟨_, h.run_asOwner_of_error howned _ _ gate, h.saving none⟩
  | ok u =>
    let change := Statement.updatePromotion id content
    let values := change.columns.zip ((Statement.updateColumns content).map (·.2))
    have hvalues (p : Promotion) : (Record.of p).set values = Record.of { p with content } :=
      Record.set_columns_updatePromotion id p hwhole
    have hchecked : (rules.constrained && !((db.opened.having (.uuid id)).all fun r =>
        (r.set values).valid)) = false := by
      cases hconstrained : rules.constrained with
      | false => rfl
      | true =>
        have hrows : ∀ r ∈ db.opened.having (.uuid id), (r.set values).valid = true := by
          rw [h.opened.having_eq]
          intro r hr
          obtain ⟨p, -, rfl⟩ := Option.map_eq_some_iff.mp (Option.mem_toList.mp hr)
          rw [hvalues]
          exact Record.valid_of (hvalid hconstrained)
        simpa using hrows
    have hchange : db.opened.reply rules change change.parameters =
        (.ok (db.opened.having (.uuid id)).length, { db.opened with
          promo := db.promo.map fun r =>
            if r.column "id" = .uuid id then r.set values else r }) := by
      change db.opened.updatePromotion rules (.uuid id) values = _
      rw [Database.updatePromotion, hchecked]
      rfl
    exact ⟨_, h.run_asOwner howned _ hchange gate, (h.rewrite id hvalues hlower).saving none⟩

/-- The owner's promotion goes. -/
theorem gives_delete (h : Represents rules db s) (gate : ScriptedGate) :
    ∃ db', (Repository.delete id company).run (Database.answer rules) (db, gate) =
      ((s.delete id company).1, db', gate) ∧ Represents rules db' (s.delete id company).2 := by
  unfold Store.delete
  cases howned : s.owned id company with
  | error f => exact ⟨_, h.run_asOwner_of_error howned _ _ gate, h.saving none⟩
  | ok u =>
    have hchange : db.opened.reply rules (.deletePromotion id) [.uuid id] =
        (.ok (db.opened.having (.uuid id)).length, db.opened.deletePromotion (.uuid id)) := rfl
    exact ⟨_, h.run_asOwner howned _ hchange gate, (h.opened.remove id).saving none⟩

/-- A new promotion breaks no constraint. -/
theorem insertPromotion_eq (h : Represents rules db s) {p : Promotion} (hnew : s.find? p.id = none)
    (hcontent : p.content.WellFormed) :
    db.insertPromotion rules (Record.of p) =
      (.ok 1, { db with promo := db.promo ++ [Record.of p] }) := by
  have hnone : db.having (.uuid p.id) = [] := by
    rw [h.having_eq, hnew]
    rfl
  simp [Database.insertPromotion, hnone, Record.valid_of hcontent]

/-- Nor do its codes. -/
theorem insertCodes_eq (h : Represents rules db s) {p : Promotion} (hnew : s.find? p.id = none)
    {codes : List NewCode} (hdistinct : (codes.map (·.code)).Nodup)
    (hcodes : ∀ c ∈ codes, c.code.length ≤ 30 ∧ 1 ≤ c.maxCount) :
    let pairs := codes.map fun c => (c.code, c.maxCount.toInt)
    let rows := CodeRow.numbered p.id db.next pairs
    Database.insertCodes rules { db with promo := db.promo ++ [Record.of p] } p.id pairs =
      (.ok rows.length, { db with
        promo := db.promo ++ [Record.of p], promoCode := db.promoCode ++ rows
        next := db.next + rows.length }) := by
  have hthere :
      Database.having { db with promo := db.promo ++ [Record.of p] } (.uuid p.id) ≠ [] := by
    simp [Database.having, Record.of, Record.column]
  exact Database.insertCodes_of_fit rules hthere (h.filter_eq_nil hnew) hdistinct hcodes

/-- All codes of a new promotion come to be. -/
theorem gives_create (h : Represents rules db s) (hnew : s.find? id = none) {draft : Draft}
    (hdraft : draft.WellFormed) {createdAt : Calendar.Instant} (hcreated : createdAt.Whole)
    (hcontent : draft.content.Whole) (gate : ScriptedGate) :
    ∃ db', (Repository.create id createdAt draft draft.budget.pool).run (Database.answer rules)
        (db, gate) = (.ok (), db', gate) ∧
      Represents rules db' (s.insert (draft.promotion id createdAt draft.budget.pool)) := by
  let p := draft.promotion id createdAt draft.budget.pool
  let codes := draft.budget.pool
  obtain ⟨hdistinct, hcodes⟩ := hdraft.codes.fit
  have hlower : rules.Lowers p.content := rules.lowers_of_wellFormed hdraft.content
  have hpromotion : db.opened.reply rules (.insertPromotion id createdAt draft)
      (Statement.insertPromotion id createdAt draft).parameters =
        (.ok 1, { db.opened with promo := db.promo ++ [Record.of p] }) := by
    have hrecord := Record.columns_insertPromotion id hcreated hcontent codes
    rw [Database.reply, hrecord]
    exact h.opened.insertPromotion_eq (p := p) hnew hdraft.content
  let rows := CodeRow.numbered id db.next (codes.map fun c => (c.code, c.maxCount.toInt))
  have hsent : Database.reply rules { db.opened with promo := db.promo ++ [Record.of p] }
      (.insertCodes id codes) (Statement.insertCodes id codes).parameters =
        (.ok rows.length, { db.opened with
          promo := db.promo ++ [Record.of p], promoCode := db.promoCode ++ rows
          next := db.next + rows.length }) := by
    rw [Statement.parameters, Database.reply, List.zip_map']
    exact h.opened.insertCodes_eq (p := p) hnew hdistinct hcodes
  have hlength : rows.length = codes.length := by
    rw [CodeRow.length_numbered, List.length_map]
  refine ⟨_, run_transaction_keep ?_, ((h.opened.create hnew rfl hcodes hlower).saving none)⟩
  rw [run_step, hpromotion]
  simp only [Except.mapError]
  rw [run_step, hsent]
  simp only [Except.mapError]
  rw [if_pos hlength]
  rfl

theorem run_lockCode (h : Represents rules db s) (id : Uuid) (gate : ScriptedGate) :
    (Repository.lockCode id).run (Database.answer rules) (db, gate) =
      (.ok ((db.firstFree? id).map fun row => (row.number, row.count.code)), db, gate) := by
  have hreply (waits : Bool) : db.reply rules (.selectFreeCode id waits) [.uuid id] =
      (.ok ((db.firstFree? id).map fun row => (row.number, row.count.code)).toList, db) := by
    rw [← h.freeCode_eq]
    rfl
  rw [Repository.lockCode, run_step, Statement.parameters, hreply]
  cases hfirst : db.firstFree? id with
  | some row => rfl
  | none =>
    simp only [Except.mapError, Option.map_none, Option.toList_none]
    rw [run_step, Statement.parameters, hreply, hfirst]
    rfl

theorem run_whyNone (h : Represents rules db s) (id : Uuid) (gate : ScriptedGate) :
    (Repository.whyNone id).run (Database.answer rules) (db, gate) =
      (if (s.find? id).isSome then .exhausted else .promotionNotFound, db, gate) := by
  have hreply : db.reply rules (.promotionExists id) [.uuid id] =
      (.ok [(s.find? id).isSome], db) := by
    have hthere : db.reply rules (.promotionExists id) [.uuid id] =
        (.ok [!(db.having (.uuid id)).isEmpty], db) := rfl
    rw [hthere, h.having_eq]
    cases s.find? id <;> rfl
  rw [Repository.whyNone, run_step, Statement.parameters, hreply]
  cases s.find? id <;> rfl

/-- The activation of a code that has some left is counted, once. -/
theorem redeemCode_eq (h : Represents rules db s) {row : CodeRow}
    (hfirst : db.firstFree? id = some row) :
    db.redeemCode rules row.number =
      (.ok 1, { db with promoCode := db.promoCode.map (CodeRow.redeemAt row.number) }) := by
  have hrow : row ∈ db.promoCode := List.mem_of_mem_filter (List.mem_of_find?_eq_some hfirst)
  have hroom : hasRoom row.count = true := by simpa using List.find?_some hfirst
  have hhit := CodeRow.filter_redeemable h.ordered hrow hroom
  have hvalid : row.redeem.valid = true := CodeRow.valid_redeem (h.valid row hrow) hroom
  simp [Database.redeemCode, hhit, hvalid, CodeRow.redeemAt]

/-- Both hand out the same code, or none for the same reason. -/
theorem gives_activate (h : Represents rules db s) (id : Uuid) (gate : ScriptedGate) :
    let decide (id : Uuid) (code : String) (g : ScriptedGate) := g.decide id code
    ∃ db', (Repository.activate id).run (Database.answer rules) (db, gate) =
      ((s.activate decide id gate).1, db', (s.activate decide id gate).2.2) ∧
        Represents rules db' (s.activate decide id gate).2.1 := by
  intro decide
  have hlock := h.opened.run_lockCode id gate
  have hwhy := h.opened.run_whyNone id gate
  cases hfirst : db.opened.firstFree? id with
  | none =>
    rw [hfirst] at hlock
    have hstore : s.activate decide id gate =
        (.error (if (s.find? id).isSome then .exhausted else .promotionNotFound), s, gate) := by
      unfold Store.activate
      cases hfind : s.find? id with
      | none => rfl
      | some p =>
        have hnext := h.opened.nextCode?_eq hfind
        rw [hfirst] at hnext
        simp [hnext]
    rw [hstore]
    refine ⟨_, run_transaction_giveUp ?_, h.saving none⟩
    rw [Dialogue.run_bind, hlock]
    change (Repository.whyNone id >>= _).run (Database.answer rules) (db.opened, gate) = _
    rw [Dialogue.run_bind, hwhy]
    rfl
  | some row =>
    rw [hfirst] at hlock
    obtain ⟨p, hfind⟩ : ∃ p, s.find? id = some p := by
      refine Option.ne_none_iff_exists'.mp fun hnone => ?_
      rw [Database.firstFree?, h.opened.filter_eq_nil hnone] at hfirst
      cases hfirst
    have hnext := h.opened.nextCode?_eq hfind
    rw [hfirst] at hnext
    obtain ⟨refuses, gate', hgate⟩ : ∃ refuses gate', gate.decide id row.count.code =
        (refuses, gate') := ⟨_, _, rfl⟩
    cases refuses with
    | true =>
      have hstore : s.activate decide id gate = (.error .rejectedByGate, s, gate') := by
        simp [Store.activate, hfind, hnext, decide, hgate]
      rw [hstore]
      refine ⟨_, run_transaction_gone ?_, h.saving none⟩
      rw [Dialogue.run_bind, hlock]
      simp only [Option.map_some]
      rw [run_refused, hgate]
      rfl
    | false =>
      have hstore : s.activate decide id gate = (.ok row.count.code,
          s.modify id fun p => { p with codes := redeemNext p.codes }, gate') := by
        simp [Store.activate, hfind, hnext, decide, hgate]
      have hcounted : db.opened.reply rules (.redeemCode row.number) [.integer row.number] =
          (.ok 1, { db.opened with
            promoCode := db.promoCode.map (CodeRow.redeemAt row.number) }) :=
        h.opened.redeemCode_eq hfirst
      rw [hstore]
      refine ⟨_, run_transaction_keep ?_, (h.opened.redeem hfirst).saving none⟩
      rw [Dialogue.run_bind, hlock]
      simp only [Option.map_some]
      rw [run_refused, hgate]
      simp only [Bool.false_eq_true, if_false]
      rw [run_step, Statement.parameters, hcounted]
      rfl

end Represents

/-! ### Requests in a row -/

/-- What a request must keep to, if the tables are to have room for it. New promotions are drawn up
by validation, with the codes of their budget, and the database keeps moments to the microsecond.
New content may be any if the database checks nothing and puts its country into small letters as
everybody does. -/
def Proper (rules : Rules) : StoreRequest → Prop
  | .create _ createdAt draft codes =>
    (∃ (company : Uuid) (r : CreateRequest), r.draft company = .ok draft) ∧
      codes = draft.budget.pool ∧ createdAt.Whole ∧ draft.content.Whole
  | .update _ _ content =>
    content.Whole ∧ (content.WellFormed ∨ rules.constrained = false ∧ rules.Lowers content)
  | .find _ | .list _ _ _ | .count _ | .delete _ _ | .activate _ => True

/-- The answers to requests, one after another. -/
def answers {σ : Type} (answer : (r : StoreRequest) → σ → r.Answer × σ) :
    List StoreRequest → σ → List ((r : StoreRequest) × r.Answer)
  | [], _ => []
  | r :: rs, s => ⟨r, (answer r s).1⟩ :: answers answer rs (answer r s).2

def inMemory (r : StoreRequest) (e : Environment) : r.Answer × Environment := e.answerStore r

def inTables (rules : Rules) (r : StoreRequest) (x : Database × ScriptedGate) :
    r.Answer × Database × ScriptedGate :=
  (Repository.answer r).run (Database.answer rules) x

/-- Whenever a promotion is to be created, its identifier is not one of a stored promotion. -/
def CreatesNew : Environment → List StoreRequest → Prop
  | _, [] => True
  | e, r :: rs =>
    (∀ id createdAt draft codes, r = .create id createdAt draft codes → e.store.find? id = none) ∧
      CreatesNew (inMemory r e).2 rs

/-- The tables hold what the store in memory holds, and both gates decide in the same way. -/
structure Matches (rules : Rules) (x : Database × ScriptedGate) (e : Environment) : Prop where
  represents : Represents rules x.1 e.store
  gate : x.2 = e.gate
  takesCodes : e.refusesCodes = false

namespace Matches

variable {x : Database × ScriptedGate} {e : Environment} {r : StoreRequest} {rs : List StoreRequest}

/-- A proper request is answered by the tables as by the store in memory, and the two still
match. -/
theorem answer (h : Matches rules x e) (hproper : Proper rules r)
    (hnew : ∀ id createdAt draft codes, r = .create id createdAt draft codes →
      e.store.find? id = none) :
    (inTables rules r x).1 = (inMemory r e).1 ∧
      Matches rules (inTables rules r x).2 (inMemory r e).2 := by
  obtain ⟨db, gate⟩ := x
  obtain ⟨hdb, rfl, htakes⟩ := h
  -- What is left to show for each request: its run, and that the tables follow the store.
  have hmatches {e' : Environment} (a : r.Answer) (hmemory : inMemory r e = (a, e'))
      (htakes : e'.refusesCodes = false)
      (hgives : ∃ db', inTables rules r (db, e.gate) = (a, db', e'.gate) ∧
        Represents rules db' e'.store) :
      (inTables rules r (db, e.gate)).1 = (inMemory r e).1 ∧
        Matches rules (inTables rules r (db, e.gate)).2 (inMemory r e).2 := by
    obtain ⟨db', hrun, hdb'⟩ := hgives
    rw [hrun, hmemory]
    exact ⟨rfl, hdb', rfl, htakes⟩
  cases r with
  | find id => exact hmatches _ rfl htakes ⟨db, hdb.run_find id e.gate, hdb⟩
  | list filter page key =>
    exact hmatches _ rfl htakes ⟨db, hdb.run_list filter page key e.gate, hdb⟩
  | count filter => exact hmatches _ rfl htakes ⟨db, hdb.run_count filter e.gate, hdb⟩
  | create id createdAt draft codes =>
    obtain ⟨⟨company, request, hdraft⟩, rfl, hcreated, hcontent⟩ := hproper
    have hmemory : inMemory (.create id createdAt draft draft.budget.pool) e = (.ok (), { e with
        store := e.store.insert (draft.promotion id createdAt draft.budget.pool) }) := by
      simp [inMemory, Environment.answerStore, htakes]
    exact hmatches _ hmemory htakes (hdb.gives_create (hnew _ _ _ _ rfl)
      (CreateRequest.wellFormed_of_draft hdraft) hcreated hcontent e.gate)
  | update id company content =>
    obtain ⟨hwhole, hcontent⟩ := hproper
    have hlower : rules.Lowers content := by
      rcases hcontent with hwell | ⟨-, hlower⟩
      · exact rules.lowers_of_wellFormed hwell
      · exact hlower
    have hvalid : rules.constrained = true → content.WellFormed := by
      rcases hcontent with hwell | ⟨hfree, -⟩
      · exact fun _ => hwell
      · intro hconstrained
        rw [hfree] at hconstrained
        cases hconstrained
    exact hmatches _ rfl htakes (hdb.gives_update hwhole hlower hvalid e.gate)
  | delete id company => exact hmatches _ rfl htakes (hdb.gives_delete e.gate)
  | activate id => exact hmatches _ rfl htakes (hdb.gives_activate id e.gate)

/-- Request by request, the answers are the same. -/
theorem answers_eq (h : Matches rules x e) (hproper : ∀ r ∈ rs, Proper rules r)
    (hnew : CreatesNew e rs) : answers (inTables rules) rs x = answers inMemory rs e := by
  induction rs generalizing x e with
  | nil => rfl
  | cons r rs ih =>
    obtain ⟨hr, hrs⟩ := List.forall_mem_cons.mp hproper
    obtain ⟨hanswer, hafter⟩ := h.answer hr hnew.1
    rw [answers, answers, hanswer, ih hafter hrs hnew.2]

end Matches

/-- The store in the database is the store in memory. Whatever the database makes of letters beyond
those of country codes, and whether it checks the constraints of its tables or not, every sequence
of requests has the same answers from both, one by one: the same promotions in the same order, the
same codes handed out, and the same failures. New promotions are drawn up by validation and have new
identifiers, moments are whole microseconds, and the same gate decides for both. -/
theorem tables_answer_as_memory (rules : Rules) (gate : ScriptedGate) {rs : List StoreRequest}
    (hproper : ∀ r ∈ rs, Proper rules r) (hnew : CreatesNew { gate } rs) :
    answers (inTables rules) rs ({}, gate) = answers inMemory rs { gate } :=
  Matches.answers_eq ⟨represents_empty rules, rfl, rfl⟩ hproper hnew

/-- The codes that activations hand out, or why they do not. -/
def handedOut (answered : List ((r : StoreRequest) × r.Answer)) : List (Except Failure String) :=
  answered.filterMap fun
    | ⟨.activate _, a⟩ => some a
    | _ => none

def discount (description : String) : Content :=
  ⟨description, none, ⟨some 18, none, some "BR", []⟩, some (Supply.timeAt 2), none⟩

/-- A promotion with two codes is created, listed, changed by its owner and, in vain, by another
company, and activated five times, of which the gate refuses the first and the last comes when the
promotion has been deleted. -/
def soldOut : List StoreRequest :=
  let id := Supply.idAt 1
  let bakery := Supply.idAt 7
  [.create id (Supply.timeAt 1) ⟨bakery, discount "Dez por cento", .unique ["ONE", "TWO"]⟩
      [⟨"ONE", 1⟩, ⟨"TWO", 1⟩],
    .list ⟨bakery, ["br"]⟩ ⟨10, 0⟩ .activeFrom, .update id bakery (discount "Vinte por cento"),
    .update id (Supply.idAt 8) (discount "Nada por cento"), .activate id, .activate id,
    .activate id, .activate id, .find id, .delete id bakery, .activate id, .count ⟨bakery, []⟩]

/-- The tables hand out both codes and answer all requests as the store in memory does. -/
theorem sold_out_in_tables :
    handedOut (answers (inTables strict) soldOut ({}, { script := [true] })) =
        [.error .rejectedByGate, .ok "ONE", .ok "TWO", .error .exhausted,
          .error .promotionNotFound] ∧
      answers (inTables strict) soldOut ({}, { script := [true] }) =
        answers inMemory soldOut { gate := { script := [true] } } := by
  have hwhole (description : String) : (discount description).Whole := by
    refine ⟨fun i hi => ?_, fun i hi => ?_⟩
    · obtain rfl := Option.some.inj hi
      decide
    · cases hi
  have hcreate : CreateRequest.draft ⟨"UNIQUE", none, some ["ONE", "TWO"], none,
      discount "Dez por cento"⟩ (Supply.idAt 7) =
        .ok ⟨Supply.idAt 7, discount "Dez por cento", .unique ["ONE", "TWO"]⟩ := by
    decide +kernel
  have hchange (company : Uuid) {description : String} (h : UpdateRequest.changes
      ⟨discount description, none, none, none, none⟩ = .ok (discount description)) :
      Proper strict (.update (Supply.idAt 1) company (discount description)) :=
    ⟨hwhole description, Or.inl (UpdateRequest.wellFormed_of_changes h)⟩
  have hproper : ∀ r ∈ soldOut, Proper strict r := by
    simp only [soldOut, List.forall_mem_cons]
    exact ⟨⟨⟨_, _, hcreate⟩, rfl, by decide, hwhole _⟩, trivial, hchange _ (by decide +kernel),
      hchange _ (by decide +kernel), trivial, trivial, trivial, trivial, trivial, trivial, trivial,
      trivial, List.forall_mem_nil _⟩
  have hnew : CreatesNew { gate := { script := [true] } } soldOut := by
    refine ⟨fun _ _ _ _ _ => rfl, ?_, ?_, ?_, ?_, ?_, ?_, ?_, ?_, ?_, ?_, ?_, trivial⟩
    all_goals
      intro id createdAt draft codes h
      cases h
  refine ⟨?_, tables_answer_as_memory strict _ hproper hnew⟩
  rw [tables_answer_as_memory strict _ hproper hnew]
  decide +kernel

end Postgres

end Promotions
