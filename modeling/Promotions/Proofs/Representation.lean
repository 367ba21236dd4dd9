import Promotions.Proofs.Records
import Promotions.Proofs.Rows

/-!
Tables that hold what a store holds. Every promotion has its row, and its codes are the rows of the
other table that name it, in the order of their numbers. What statements ask of such tables is
answered as the store would answer it, and what they change leaves such tables behind, for the store
changed in the same way.
-/

namespace Promotions

open Memory (Store hasRoom redeemed nextCode? redeemNext)

namespace Postgres

/-! ### Rows of codes -/

namespace CodeRow

variable {rows : List CodeRow} {row : CodeRow}

theorem eq_of_number_eq (h : rows.Pairwise fun a b => a.number < b.number) {a b : CodeRow}
    (ha : a ∈ rows) (hb : b ∈ rows) (hnumber : a.number = b.number) : a = b := by
  have hnodup : (rows.map (·.number)).Nodup :=
    List.pairwise_map.mpr (h.imp fun hlt => Int.ne_of_lt hlt)
  exact List.inj_on_of_nodup_map hnodup ha hb hnumber

/-- No other row is hit when the number of a row with activations left is asked for. -/
theorem filter_redeemable (h : rows.Pairwise fun a b => a.number < b.number) (hrow : row ∈ rows)
    (hroom : hasRoom row.count = true) : rows.filter (Database.redeemable row.number) = [row] := by
  induction rows with
  | nil => cases hrow
  | cons r rows ih =>
    obtain ⟨hlater, hrest⟩ := List.pairwise_cons.mp h
    rcases List.mem_cons.mp hrow with rfl | hrow
    · have hnone : rows.filter (Database.redeemable row.number) = [] := by
        refine List.filter_eq_nil_iff.mpr fun r hr => ?_
        have hlt := hlater r hr
        simp only [Database.redeemable, Bool.and_eq_true, decide_eq_true_eq, not_and]
        omega
      simp [Database.redeemable, hroom, hnone]
    · have hlt := hlater row hrow
      have hmiss : Database.redeemable row.number r = false := by
        simp only [Database.redeemable, Bool.and_eq_false_iff, decide_eq_false_iff_not]
        omega
      rw [List.filter_cons, hmiss, if_neg Bool.false_ne_true, ih hrest hrow]

def redeemAt (number : Int) (row : CodeRow) : CodeRow :=
  if Database.redeemable number row then row.redeem else row

@[simp] theorem number_redeemAt (number : Int) (row : CodeRow) :
    (row.redeemAt number).number = row.number := by
  unfold redeemAt
  split <;> rfl

@[simp] theorem promotion_redeemAt (number : Int) (row : CodeRow) :
    (row.redeemAt number).promotion = row.promotion := by
  unfold redeemAt
  split <;> rfl

theorem redeemAt_of_ne {number : Int} (h : row.number ≠ number) : row.redeemAt number = row := by
  simp [redeemAt, Database.redeemable, h]

theorem valid_iff : row.valid = true ↔ row.count.code.length ≤ 30 ∧
    1 ≤ row.count.maxCount.toInt ∧ 0 ≤ row.count.activations.toInt ∧
      row.count.activations.toInt ≤ row.count.maxCount.toInt := by
  have hzero : (0 : Int64).toInt = 0 := rfl
  have hone : (1 : Int64).toInt = 1 := rfl
  simp [valid, Int64.le_iff_toInt_le, hzero, hone, and_assoc]

/-- The limit of a code is kept, since an activation is counted only where there is room. -/
theorem valid_redeem (h : row.valid = true) (hroom : hasRoom row.count = true) :
    row.redeem.valid = true := by
  have hmore : row.redeem.count.activations.toInt = row.count.activations.toInt + 1 :=
    Memory.toInt_redeemed row.count hroom
  have hlt : row.count.activations.toInt < row.count.maxCount.toInt := by
    simpa [hasRoom, Int64.lt_iff_toInt_lt] using hroom
  obtain ⟨hlength, hlimit, hlow, -⟩ := valid_iff.mp h
  refine valid_iff.mpr ⟨hlength, hlimit, by omega, ?_⟩
  rw [hmore]
  exact hlt

/-- A row that keeps the constraints still does so when it is redeemed. -/
theorem valid_redeemAt {number : Int} (h : row.valid = true) :
    (row.redeemAt number).valid = true := by
  unfold redeemAt
  split
  · rename_i hhit
    simp only [Database.redeemable, Bool.and_eq_true] at hhit
    exact valid_redeem h hhit.2
  · exact h

/-- Counting the first code that has activations left is redeeming the next one. -/
theorem map_redeemAt (h : rows.Pairwise fun a b => a.number < b.number)
    (hfirst : rows.find? (fun r => hasRoom r.count) = some row) :
    (rows.map (redeemAt row.number)).map (·.count) = redeemNext (rows.map (·.count)) := by
  induction rows with
  | nil => cases hfirst
  | cons r rows ih =>
    obtain ⟨hlater, hrest⟩ := List.pairwise_cons.mp h
    cases hroom : hasRoom r.count with
    | true =>
      rw [List.find?_cons_of_pos (by exact hroom)] at hfirst
      obtain rfl := Option.some.inj hfirst
      have hkept : rows.map (redeemAt r.number) = rows := by
        refine (List.map_congr_left fun x hx => redeemAt_of_ne ?_).trans (List.map_id _)
        have hlt := hlater x hx
        omega
      have hhit : Database.redeemable r.number r = true := by simp [Database.redeemable, hroom]
      simp only [List.map_cons, hkept, redeemNext, hroom, if_true, redeemAt, hhit]
      rfl
    | false =>
      rw [List.find?_cons_of_neg (by simpa using hroom)] at hfirst
      have hmiss : r.redeemAt row.number = r := by
        simp [redeemAt, Database.redeemable, hroom]
      simp only [List.map_cons, hmiss, ih hrest hfirst, redeemNext, hroom, Bool.false_eq_true,
        if_false]

/-! #### New rows -/

section

variable {id : Uuid} {number : Int} {codes : List (String × Int)}

theorem length_numbered : (numbered id number codes).length = codes.length := by
  induction codes generalizing number with
  | nil => rfl
  | cons c codes ih => simp [numbered, ih]

theorem of_mem_numbered (h : row ∈ numbered id number codes) : row.promotion = id ∧
    number ≤ row.number ∧ row.number < number + codes.length := by
  induction codes generalizing number with
  | nil => cases h
  | cons c codes ih =>
    rw [List.length_cons]
    rcases List.mem_cons.mp h with rfl | h
    · exact ⟨rfl, Int.le_refl _, by dsimp only; omega⟩
    · obtain ⟨hid, hlow, hhigh⟩ := ih h
      exact ⟨hid, by omega, by omega⟩

theorem filter_numbered :
    (numbered id number codes).filter (·.promotion = id) = numbered id number codes :=
  List.filter_eq_self.mpr fun row hrow => by simpa using (of_mem_numbered hrow).1

theorem pairwise_numbered :
    (numbered id number codes).Pairwise fun a b => a.number < b.number := by
  induction codes generalizing number with
  | nil => exact .nil
  | cons c codes ih =>
    refine .cons (fun row hrow => ?_) ih
    have hlow := (of_mem_numbered hrow).2.1
    dsimp only
    omega

/-- New codes have no activations. -/
theorem count_numbered (codes : List NewCode) :
    (numbered id number (codes.map fun c => (c.code, c.maxCount.toInt))).map (·.count) =
      codes.map NewCode.unused := by
  induction codes generalizing number with
  | nil => rfl
  | cons c codes ih => simp [numbered, ih, NewCode.unused]

/-- A code that has a fitting length and may be activated keeps the constraints when it is new. -/
theorem valid_numbered {codes : List NewCode}
    (hcodes : ∀ c ∈ codes, c.code.length ≤ 30 ∧ 1 ≤ c.maxCount)
    (h : row ∈ numbered id number (codes.map fun c => (c.code, c.maxCount.toInt))) :
    row.valid = true := by
  have hcounts : (numbered id number (codes.map fun c => (c.code, c.maxCount.toInt))).map
      (·.count) = codes.map NewCode.unused := count_numbered codes
  have hmem : row.count ∈ codes.map NewCode.unused := hcounts ▸ List.mem_map_of_mem h
  obtain ⟨c, hc, hcount⟩ := List.mem_map.mp hmem
  obtain ⟨hlength, hlimit⟩ := hcodes c hc
  have hone : (1 : Int64).toInt = 1 := rfl
  have hzero : (0 : Int64).toInt = 0 := rfl
  rw [Int64.le_iff_toInt_le, hone] at hlimit
  rw [valid_iff, ← hcount, NewCode.unused, hzero]
  exact ⟨hlength, hlimit, Int.le_refl 0, Int.le_trans Int.one_nonneg hlimit⟩

end

end CodeRow

/-- The first codes of a promotion that is there break no constraint if they fit and differ. -/
theorem Database.insertCodes_of_fit (rules : Rules) {db : Database} {id : Uuid}
    {codes : List NewCode} (hthere : db.having (.uuid id) ≠ [])
    (hfirst : db.promoCode.filter (·.promotion = id) = [])
    (hdistinct : (codes.map (·.code)).Nodup)
    (hcodes : ∀ c ∈ codes, c.code.length ≤ 30 ∧ 1 ≤ c.maxCount) :
    let pairs := codes.map fun c => (c.code, c.maxCount.toInt)
    let rows := CodeRow.numbered id db.next pairs
    db.insertCodes rules id pairs = (.ok rows.length, { db with
      promoCode := db.promoCode ++ rows, next := db.next + rows.length }) := by
  intro pairs rows
  have hvalid : rows.all (·.valid) = true :=
    List.all_eq_true.mpr fun row hrow => CodeRow.valid_numbered hcodes hrow
  have hnamed :
      (((db.promoCode ++ rows).filter (·.promotion = id)).map (·.count.code)).Nodup := by
    have hcounts : rows.map (·.count) = codes.map NewCode.unused := CodeRow.count_numbered codes
    have hnames : rows.map (·.count.code) = codes.map (·.code) := by
      have hmapped := congrArg (List.map (·.code)) hcounts
      rw [List.map_map, List.map_map] at hmapped
      exact hmapped
    rw [List.filter_append, hfirst, CodeRow.filter_numbered, List.nil_append, hnames]
    exact hdistinct
  have hpassed : (rows.all (·.valid) && !(db.having (.uuid id)).isEmpty
      && decide (((db.promoCode ++ rows).filter (·.promotion = id)).map
          (·.count.code)).Nodup) = true := by
    rw [hvalid, List.isEmpty_eq_false_iff.mpr hthere, decide_eq_true hnamed]
    rfl
  rw [insertCodes, hpassed, Bool.not_true, Bool.and_false, if_neg Bool.false_ne_true]

def Database.firstFree? (db : Database) (id : Uuid) : Option CodeRow :=
  (db.promoCode.filter (·.promotion = id)).find? fun row => hasRoom row.count

/-! ### The same promotions -/

theorem mapM_eq_some {α β : Type} {f : α → Option β} {g : α → β} {l : List α}
    (h : ∀ a ∈ l, f a = some (g a)) : l.mapM f = some (l.map g) := by
  induction l with
  | nil => rfl
  | cons a l ih =>
    obtain ⟨ha, hl⟩ := List.forall_mem_cons.mp h
    simp [List.mapM_cons, ha, ih hl]

/-- The tables hold the promotions of a store. -/
structure Represents (rules : Rules) (db : Database) (s : Store) : Prop where
  promo : db.promo = s.promotions.map Record.of
  codes : ∀ p ∈ s.promotions, (db.promoCode.filter (·.promotion = p.id)).map (·.count) = p.codes
  /-- Every code belongs to a promotion. -/
  owned : ∀ row ∈ db.promoCode, ∃ p ∈ s.promotions, p.id = row.promotion
  ordered : db.promoCode.Pairwise fun a b => a.number < b.number
  unused : ∀ row ∈ db.promoCode, row.number < db.next
  valid : ∀ row ∈ db.promoCode, row.valid = true
  distinct : s.Distinct
  lowers : ∀ p ∈ s.promotions, rules.Lowers p.content

theorem represents_empty (rules : Rules) : Represents rules {} {} :=
  ⟨rfl, List.forall_mem_nil _, List.forall_mem_nil _, .nil, List.forall_mem_nil _,
    List.forall_mem_nil _, List.nodup_nil, List.forall_mem_nil _⟩

namespace Represents

variable {rules : Rules} {db : Database} {s : Store} (h : Represents rules db s)
include h

/-- What a transaction would go back to does not matter. -/
theorem saving (saved : Option (List Record × List CodeRow)) :
    Represents rules { db with saved } s :=
  ⟨h.promo, h.codes, h.owned, h.ordered, h.unused, h.valid, h.distinct, h.lowers⟩

/-! ### What the tables are asked -/

theorem having_eq (id : Uuid) :
    db.having (.uuid id) = ((s.find? id).map Record.of).toList := by
  simp only [Database.having, h.promo, List.filter_map, Function.comp_def, Record.column_id,
    Parameter.uuid.injEq]
  rw [h.distinct.filter_id]
  cases s.find? id <;> rfl

theorem codesOf_eq (id : Uuid) :
    db.codesOf (.uuid id) = db.promoCode.filter (·.promotion = id) := by
  simp only [Database.codesOf, Parameter.uuid.injEq]
  refine List.mergeSort_of_pairwise ((h.ordered.filter _).imp fun hlt => ?_)
  simp only [decide_eq_true_eq]
  omega

/-- The promotions of the store are read from the tables, each with its codes. -/
theorem details_eq {ps : List Promotion} (hps : ∀ p ∈ ps, p ∈ s.promotions) :
    db.details (ps.map Record.of) = .ok (ps.map Row.of) := by
  have hrow : ∀ p ∈ ps, (Record.of p).row?
      ((db.codesOf ((Record.of p).column "id")).map (·.count)) = some (Row.of p) := by
    intro p hp
    rw [Record.row?_of, Record.column_id, h.codesOf_eq, h.codes p (hps p hp)]
  have hrows : (ps.map Record.of).mapM
      (fun r => r.row? ((db.codesOf (r.column "id")).map (·.count))) = some (ps.map Row.of) := by
    rw [List.mapM_map]
    exact mapM_eq_some hrow
  rw [Database.details, Database.fetch, hrows]

theorem filter_accepts (filter : Filter) :
    db.promo.filter (Database.accepts rules (.uuid filter.companyId) filter.countries) =
      (s.promotions.filter filter.accepts).map Record.of := by
  rw [h.promo, List.filter_map]
  congr 1
  exact List.filter_congr fun p hp => Record.accepts_of filter (h.lowers p hp)

theorem freeCode_eq (id : Uuid) : db.freeCode (.uuid id) =
    ((db.firstFree? id).map fun row => (row.number, row.count.code)).toList := by
  rw [Database.freeCode, h.codesOf_eq, List.take_one, List.head?_filter, Database.firstFree?]
  cases (db.promoCode.filter (·.promotion = id)).find? fun row => hasRoom row.count <;> rfl

/-- The first code that has activations left is the next one. -/
theorem nextCode?_eq {id : Uuid} {p : Promotion} (hfind : s.find? id = some p) :
    nextCode? p.codes = (db.firstFree? id).map (·.count.code) := by
  obtain ⟨hp, rfl⟩ := Store.mem_of_find? hfind
  rw [nextCode?, ← h.codes p hp, List.find?_map, Option.map_map]
  rfl

/-- No code belongs to a promotion that is not there. -/
theorem filter_eq_nil {id : Uuid} (hnew : s.find? id = none) :
    db.promoCode.filter (·.promotion = id) = [] := by
  refine List.filter_eq_nil_iff.mpr fun row hrow => ?_
  obtain ⟨p, hp, hid⟩ := h.owned row hrow
  simpa [← hid] using Store.ne_of_find?_eq_none hnew p hp

/-! ### What the tables are changed to -/

/-- A new promotion comes with its codes, numbered from the next number on. -/
theorem create {p : Promotion} {codes : List NewCode} (hnew : s.find? p.id = none)
    (hcodes : p.codes = codes.map NewCode.unused)
    (hvalid : ∀ c ∈ codes, c.code.length ≤ 30 ∧ 1 ≤ c.maxCount)
    (hlower : rules.Lowers p.content) :
    let rows := CodeRow.numbered p.id db.next (codes.map fun c => (c.code, c.maxCount.toInt))
    Represents rules { db with
      promo := db.promo ++ [Record.of p], promoCode := db.promoCode ++ rows
      next := db.next + rows.length } (s.insert p) := by
  intro rows
  have hothers := Store.ne_of_find?_eq_none hnew
  have hinsert : s.insert p = ⟨s.promotions ++ [p]⟩ := by
    have hremove : s.promotions.filter (·.id ≠ p.id) = s.promotions :=
      List.filter_eq_self.mpr fun q hq => by simpa using hothers q hq
    rw [Store.insert, Store.remove, hremove]
  have hrows : ∀ row ∈ rows, row.promotion = p.id ∧ db.next ≤ row.number ∧
      row.number < db.next + rows.length := by
    intro row hrow
    rw [CodeRow.length_numbered]
    exact CodeRow.of_mem_numbered hrow
  have hcounts : rows.map (·.count) = p.codes := (CodeRow.count_numbered codes).trans hcodes.symm
  have hdistinct := h.distinct.insert p
  rw [hinsert] at hdistinct ⊢
  refine ⟨?_, ?_, ?_, ?_, ?_, ?_, hdistinct, ?_⟩
  · simp [h.promo]
  · intro q hq
    rw [List.filter_append, List.map_append]
    rcases List.mem_append.mp hq with hq | hq
    · have hnone : rows.filter (·.promotion = q.id) = [] := by
        refine List.filter_eq_nil_iff.mpr fun row hrow => ?_
        have hne := hothers q hq
        simpa [(hrows row hrow).1] using Ne.symm hne
      rw [h.codes q hq, hnone, List.map_nil, List.append_nil]
    · obtain rfl := List.mem_singleton.mp hq
      have hnone := h.filter_eq_nil hnew
      rw [hnone, CodeRow.filter_numbered, hcounts, List.map_nil, List.nil_append]
  · intro row hrow
    rcases List.mem_append.mp hrow with hrow | hrow
    · obtain ⟨q, hq, hid⟩ := h.owned row hrow
      exact ⟨q, List.mem_append_left _ hq, hid⟩
    · exact ⟨p, List.mem_append_right _ List.mem_cons_self, (hrows row hrow).1.symm⟩
  · refine List.pairwise_append.mpr ⟨h.ordered, CodeRow.pairwise_numbered, ?_⟩
    intro row hrow new hnew
    exact Int.lt_of_lt_of_le (h.unused row hrow) (hrows new hnew).2.1
  · intro row hrow
    dsimp only
    rcases List.mem_append.mp hrow with hrow | hrow
    · have hlt := h.unused row hrow
      omega
    · exact (hrows row hrow).2.2
  · intro row hrow
    rcases List.mem_append.mp hrow with hrow | hrow
    · exact h.valid row hrow
    · exact CodeRow.valid_numbered hvalid hrow
  · intro q hq
    rcases List.mem_append.mp hq with hq | hq
    · exact h.lowers q hq
    · exact List.mem_singleton.mp hq ▸ hlower

/-- A promotion is given new content. -/
theorem rewrite (id : Uuid) {content : Content} {values : Record}
    (hvalues : ∀ p : Promotion, (Record.of p).set values = Record.of { p with content })
    (hlower : rules.Lowers content) :
    Represents rules { db with
      promo := db.promo.map fun r => if r.column "id" = .uuid id then r.set values else r }
      (s.modify id fun p => { p with content }) := by
  refine ⟨?_, ?_, ?_, h.ordered, h.unused, h.valid, h.distinct.modify id fun _ => rfl, ?_⟩
  · simp only [h.promo, Store.modify, List.map_map]
    refine List.map_congr_left fun p _ => ?_
    simp only [Function.comp, Record.column_id, Parameter.uuid.injEq]
    split
    · exact hvalues p
    · rfl
  · intro q hq
    obtain ⟨p, hp, rfl⟩ := List.mem_map.mp hq
    split
    · exact h.codes p hp
    · exact h.codes p hp
  · intro row hrow
    refine Store.exists_mem_modify id ?_ (h.owned row hrow)
    exact fun _ => rfl
  · intro q hq
    obtain ⟨p, hp, rfl⟩ := List.mem_map.mp hq
    split
    · exact hlower
    · exact h.lowers p hp

/-- A promotion goes, and its codes go with it. -/
theorem remove (id : Uuid) : Represents rules (db.deletePromotion (.uuid id)) (s.remove id) := by
  refine ⟨?_, ?_, ?_, h.ordered.filter _,
    fun row hrow => h.unused row (List.mem_of_mem_filter hrow),
    fun row hrow => h.valid row (List.mem_of_mem_filter hrow), h.distinct.remove id,
    fun p hp => h.lowers p (List.mem_of_mem_filter hp)⟩
  · simp only [Database.deletePromotion, h.promo, List.filter_map, Store.remove]
    congr 1
    refine List.filter_congr fun p _ => ?_
    simp
  · intro p hp
    obtain ⟨hp, hne⟩ := List.mem_filter.mp hp
    rw [← h.codes p hp]
    simp only [Database.deletePromotion, List.filter_filter]
    congr 1
    refine List.filter_congr fun row _ => ?_
    have hne : row.promotion = p.id → row.promotion ≠ id := by
      rintro hrow rfl
      simp [hrow] at hne
    by_cases hrow : row.promotion = p.id
    · simpa [hrow] using hne hrow
    · simp [hrow]
  · intro row hrow
    obtain ⟨hrow, hne⟩ := List.mem_filter.mp hrow
    obtain ⟨p, hp, hid⟩ := h.owned row hrow
    refine ⟨p, List.mem_filter.mpr ⟨hp, ?_⟩, hid⟩
    simpa [hid] using hne

/-- The next code of a promotion is redeemed. -/
theorem redeem {id : Uuid} {row : CodeRow} (hfirst : db.firstFree? id = some row) :
    Represents rules { db with promoCode := db.promoCode.map (CodeRow.redeemAt row.number) }
      (s.modify id fun p => { p with codes := redeemNext p.codes }) := by
  have hmem := List.mem_filter.mp (List.mem_of_find?_eq_some hfirst)
  have hpromotion : row.promotion = id := by simpa using hmem.2
  have hfilter (x : Uuid) :
      (db.promoCode.map (CodeRow.redeemAt row.number)).filter (·.promotion = x) =
        (db.promoCode.filter (·.promotion = x)).map (CodeRow.redeemAt row.number) := by
    simp [List.filter_map, Function.comp_def]
  refine ⟨?_, ?_, ?_, ?_, ?_, ?_, h.distinct.modify id fun _ => rfl, ?_⟩
  · simp only [h.promo, Store.modify, List.map_map]
    refine List.map_congr_left fun p _ => ?_
    simp only [Function.comp]
    split <;> rfl
  · intro q hq
    obtain ⟨p, hp, rfl⟩ := List.mem_map.mp hq
    by_cases hid : p.id = id
    · simp only [hid, if_true, hfilter]
      rw [CodeRow.map_redeemAt (h.ordered.filter _) hfirst, ← hid, h.codes p hp]
    · simp only [hid, if_false, hfilter]
      have hkept : ∀ r ∈ db.promoCode.filter (·.promotion = p.id), r.redeemAt row.number = r := by
        intro r hr
        obtain ⟨hr, hrp⟩ := List.mem_filter.mp hr
        refine CodeRow.redeemAt_of_ne fun hnumber => hid ?_
        rw [← hpromotion, ← CodeRow.eq_of_number_eq h.ordered hr hmem.1 hnumber, eq_comm]
        simpa using hrp
      rw [List.map_congr_left hkept, List.map_id', h.codes p hp]
  · intro r hr
    obtain ⟨before, hbefore, rfl⟩ := List.mem_map.mp hr
    rw [CodeRow.promotion_redeemAt]
    refine Store.exists_mem_modify id ?_ (h.owned before hbefore)
    exact fun _ => rfl
  · refine List.pairwise_map.mpr (h.ordered.imp fun hlt => ?_)
    simpa using hlt
  · intro r hr
    obtain ⟨before, hbefore, rfl⟩ := List.mem_map.mp hr
    simpa using h.unused before hbefore
  · intro r hr
    obtain ⟨before, hbefore, rfl⟩ := List.mem_map.mp hr
    exact CodeRow.valid_redeemAt (h.valid before hbefore)
  · intro q hq
    obtain ⟨p, hp, rfl⟩ := List.mem_map.mp hq
    have hlower := h.lowers p hp
    split
    · exact hlower
    · exact hlower

end Represents

end Postgres

end Promotions
