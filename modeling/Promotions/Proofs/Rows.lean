import Mathlib.Data.List.Basic
import Promotions.Memory.Contention

/-!
Rows of codes, seen one by one: what a row counts and who holds it, and what the steps of callers
do to either. The operations of the store on whole promotions are repeated here for worlds, whose
rows can be held meanwhile; each of them does to a world what it does to the store of that world.
-/

namespace Promotions.Memory

/-- An activation more is one more, since there was room for it. -/
theorem toInt_redeemed (c : CodeCount) (h : hasRoom c = true) :
    (redeemed c).activations.toInt = c.activations.toInt + 1 := by
  have hlt : c.activations.toInt < c.maxCount.toInt := by
    simpa [hasRoom, Int64.lt_iff_toInt_lt] using h
  have hmax := c.maxCount.toInt_lt
  have hmin := c.activations.le_toInt
  have hone : (1 : Int64).toInt = 1 := by decide
  simp only [redeemed, Int64.toInt_add, hone]
  exact Int.bmod_eq_of_le (by omega) (by omega)

namespace World

def count? (w : World) (r : Nat) : Option CodeCount := (w.rows[r]?).map (·.count)

def holder? (w : World) (r : Nat) : Option Nat := (w.rows[r]?).bind (·.holder)

theorem held_eq (w : World) (r : Nat) : w.held r = (w.holder? r).isSome := by
  cases h : w.rows[r]? <;> simp [held, holder?, h]

theorem roomAt_eq (w : World) (r : Nat) : w.roomAt r = (w.count? r).any hasRoom := by
  cases h : w.rows[r]? <;> simp [roomAt, count?, h]

theorem codeAt_eq (w : World) (r : Nat) : w.codeAt r = (w.count? r).elim "" (·.code) := by
  cases h : w.rows[r]? <;> simp [codeAt, count?, h]

theorem lt_of_count? {w : World} {r : Nat} {c : CodeCount} (h : w.count? r = some c) :
    r < w.rows.length := by
  obtain ⟨row, hrow, -⟩ := Option.map_eq_some_iff.mp h
  exact (List.getElem?_eq_some_iff.mp hrow).1

theorem exists_count?_of_lt {w : World} {r : Nat} (h : r < w.rows.length) :
    ∃ c, w.count? r = some c :=
  ⟨w.rows[r].count, by simp [count?, h]⟩

/-! ### Holding, releasing and redeeming a row -/

@[simp] theorem length_rows_modify (w : World) (r : Nat) (f : Row → Row) :
    (w.modify r f).rows.length = w.rows.length := by
  simp [modify]

theorem count?_modify (w : World) (r x : Nat) (f : Row → Row) :
    (w.modify r f).count? x =
      if r = x then (w.rows[x]?).map fun row => (f row).count else w.count? x := by
  by_cases hx : r = x <;> cases h : w.rows[x]? <;> simp [modify, count?, hx, h]

theorem holder?_modify (w : World) (r x : Nat) (f : Row → Row) :
    (w.modify r f).holder? x =
      if r = x then (w.rows[x]?).bind fun row => (f row).holder else w.holder? x := by
  by_cases hx : r = x <;> cases h : w.rows[x]? <;> simp [modify, holder?, hx, h]

@[simp] theorem pools_redeem (w : World) (r : Nat) : (w.redeem r).pools = w.pools := rfl

@[simp] theorem length_rows_hold (w : World) (r i : Nat) :
    (w.hold r i).rows.length = w.rows.length := length_rows_modify ..

@[simp] theorem length_rows_release (w : World) (r : Nat) :
    (w.release r).rows.length = w.rows.length := length_rows_modify ..

@[simp] theorem length_rows_redeem (w : World) (r : Nat) :
    (w.redeem r).rows.length = w.rows.length := length_rows_modify ..

@[simp] theorem count?_hold (w : World) (r i x : Nat) : (w.hold r i).count? x = w.count? x := by
  rw [hold, count?_modify]
  split <;> rfl

@[simp] theorem count?_release (w : World) (r x : Nat) : (w.release r).count? x = w.count? x := by
  rw [release, count?_modify]
  split <;> rfl

theorem count?_redeem (w : World) (r x : Nat) :
    (w.redeem r).count? x = if r = x then (w.count? x).map redeemed else w.count? x := by
  rw [redeem, count?_modify, count?, Option.map_map]
  rfl

theorem holder?_hold (w : World) (r i x : Nat) :
    (w.hold r i).holder? x = if r = x ∧ x < w.rows.length then some i else w.holder? x := by
  rw [hold, holder?_modify]
  by_cases hx : r = x
  · by_cases hl : x < w.rows.length <;> simp [holder?, hx, hl]
  · simp [hx]

theorem holder?_release (w : World) (r x : Nat) :
    (w.release r).holder? x = if r = x then none else w.holder? x := by
  rw [release, holder?_modify]
  split <;> simp

@[simp] theorem holder?_redeem (w : World) (r x : Nat) :
    (w.redeem r).holder? x = w.holder? x := by
  rw [redeem, holder?_modify]
  split <;> rfl

/-! ### Promotions with their rows -/

def pool? (w : World) (id : Uuid) : Option Pool :=
  w.pools.find? fun pool => pool.promotion.id = id

/-- A promotion with what its rows count now. -/
def present (w : World) (pool : Pool) : Promotion :=
  { pool.promotion with codes := pool.rows.filterMap w.count? }

theorem rowsOf?_eq (w : World) (id : Uuid) : w.rowsOf? id = (w.pool? id).map (·.rows) := rfl

theorem toStore_eq (w : World) : w.toStore = ⟨w.pools.map w.present⟩ := rfl

theorem find?_toStore (w : World) (id : Uuid) :
    w.toStore.find? id = (w.pool? id).map w.present := by
  simp only [toStore_eq, Store.find?, List.find?_map, pool?]
  rfl

theorem mem_of_pool? {w : World} {id : Uuid} {pool : Pool} (h : w.pool? id = some pool) :
    pool ∈ w.pools ∧ pool.promotion.id = id :=
  ⟨List.mem_of_find?_eq_some h, by simpa using List.find?_some h⟩

def remove (w : World) (id : Uuid) : World :=
  { w with pools := w.pools.filter fun pool => pool.promotion.id ≠ id }

def insert (w : World) (p : Promotion) : World := (w.remove p.id).add p

def rewrite (w : World) (id : Uuid) (content : Content) : World :=
  { w with pools := w.pools.map fun pool =>
      if pool.promotion.id = id then { pool with promotion := { pool.promotion with content } }
      else pool }

def update (w : World) (id company : Uuid) (content : Content) : Except Failure Unit × World :=
  match w.toStore.owned id company with
  | .error f => (.error f, w)
  | .ok () => (.ok (), w.rewrite id content)

def delete (w : World) (id company : Uuid) : Except Failure Unit × World :=
  match w.toStore.owned id company with
  | .error f => (.error f, w)
  | .ok () => (.ok (), w.remove id)

def listing (w : World) (filter : Filter) (page : Page) (key : SortKey) : List Pool :=
  page.cut ((w.pools.filter fun pool => filter.accepts pool.promotion).mergeSort
    fun a b => key.before a.promotion b.promotion)

theorem count?_add (w : World) (p : Promotion) (x : Nat) :
    (w.add p).count? x =
      if x < w.rows.length then w.count? x else p.codes[x - w.rows.length]? := by
  simp only [add, count?, List.getElem?_append]
  split
  · rfl
  · simp only [List.getElem?_map, Option.map_map]
    exact Option.map_id' ..

theorem holder?_add (w : World) (p : Promotion) (x : Nat) :
    (w.add p).holder? x = w.holder? x := by
  simp only [add, holder?, List.getElem?_append]
  split
  · rfl
  · rename_i h
    cases hc : p.codes[x - w.rows.length]? <;> simp [hc, List.getElem?_eq_none (Nat.le_of_not_lt h)]

theorem length_rows_add (w : World) (p : Promotion) :
    (w.add p).rows.length = w.rows.length + p.codes.length := by
  simp [add]

theorem count?_insert (w : World) (p : Promotion) (x : Nat) :
    (w.insert p).count? x =
      if x < w.rows.length then w.count? x else p.codes[x - w.rows.length]? :=
  count?_add ..

@[simp] theorem holder?_insert (w : World) (p : Promotion) (x : Nat) :
    (w.insert p).holder? x = w.holder? x :=
  holder?_add ..

theorem length_rows_insert (w : World) (p : Promotion) :
    (w.insert p).rows.length = w.rows.length + p.codes.length :=
  length_rows_add ..

theorem pool?_remove (w : World) (id x : Uuid) :
    (w.remove id).pool? x = if x = id then none else w.pool? x := by
  simp only [remove, pool?, List.find?_filter]
  split
  · rename_i h
    subst h
    simp
  · rename_i h
    congr 1
    funext pool
    by_cases hp : pool.promotion.id = x <;> simp [hp, h]

theorem pool?_rewrite_of_ne (w : World) {id x : Uuid} (content : Content) (h : x ≠ id) :
    (w.rewrite id content).pool? x = w.pool? x := by
  simp only [rewrite, pool?]
  induction w.pools with
  | nil => rfl
  | cons pool pools ih =>
    by_cases hid : pool.promotion.id = id
    · simp only [List.map_cons, hid, if_true, List.find?_cons]
      simpa [hid, Ne.symm h] using ih
    · simp only [List.map_cons, hid, if_false, List.find?_cons, ih]

theorem pool?_insert_of_ne (w : World) (p : Promotion) {x : Uuid} (h : x ≠ p.id) :
    (w.insert p).pool? x = w.pool? x := by
  have hremoved : (w.remove p.id).pool? x = w.pool? x := by simp [pool?_remove, h]
  have hadded : (w.insert p).pool? x = (w.remove p.id).pool? x := by
    simp only [insert, add, pool?, List.find?_append, List.find?_cons, List.find?_nil]
    simp [Ne.symm h]
  exact hadded.trans hremoved

/-! ### Worlds whose rows belong to one promotion each -/

/-- The rows of every promotion exist, each is one code of it, and no other promotion has them. -/
structure Layout (w : World) : Prop where
  inRange : ∀ pool ∈ w.pools, ∀ r ∈ pool.rows, r < w.rows.length
  nodup : ∀ pool ∈ w.pools, pool.rows.Nodup
  apart : ∀ a ∈ w.pools, ∀ b ∈ w.pools, ∀ r ∈ a.rows, r ∈ b.rows →
    a.promotion.id = b.promotion.id

namespace Layout

variable {w : World}

theorem empty : Layout {} :=
  ⟨by simp, by simp, by simp⟩

/-- What happens to single rows leaves the layout as it is. -/
theorem of_rows (h : w.Layout) {w' : World} (hpools : w'.pools = w.pools)
    (hlength : w'.rows.length = w.rows.length) : w'.Layout := by
  refine ⟨?_, ?_, ?_⟩
  · rw [hpools, hlength]
    exact h.inRange
  · rw [hpools]
    exact h.nodup
  · rw [hpools]
    exact h.apart

/-- To remove a promotion leaves the rows of the others apart. -/
theorem remove (h : w.Layout) (id : Uuid) : (w.remove id).Layout := by
  have hmem : ∀ pool ∈ (w.remove id).pools, pool ∈ w.pools := fun pool hp =>
    (List.mem_filter.mp hp).1
  exact ⟨fun pool hp => h.inRange pool (hmem pool hp), fun pool hp => h.nodup pool (hmem pool hp),
    fun a ha b hb => h.apart a (hmem a ha) b (hmem b hb)⟩

theorem rewrite (h : w.Layout) (id : Uuid) (content : Content) :
    (w.rewrite id content).Layout := by
  have hmem : ∀ pool ∈ (w.rewrite id content).pools,
      ∃ old ∈ w.pools, pool.rows = old.rows ∧ pool.promotion.id = old.promotion.id := by
    intro pool hp
    obtain ⟨old, hold, rfl⟩ := List.mem_map.mp hp
    refine ⟨old, hold, ?_⟩
    split <;> exact ⟨rfl, rfl⟩
  refine ⟨?_, ?_, ?_⟩
  · intro pool hp r hr
    obtain ⟨old, hold, hrows, -⟩ := hmem pool hp
    exact h.inRange old hold r (hrows ▸ hr)
  · intro pool hp
    obtain ⟨old, hold, hrows, -⟩ := hmem pool hp
    exact hrows ▸ h.nodup old hold
  · intro a ha b hb r hra hrb
    obtain ⟨a', ha', harows, haid⟩ := hmem a ha
    obtain ⟨b', hb', hbrows, hbid⟩ := hmem b hb
    rw [haid, hbid]
    exact h.apart a' ha' b' hb' r (harows ▸ hra) (hbrows ▸ hrb)

/-- A new promotion gets rows of its own, behind all others. -/
theorem add (h : w.Layout) (p : Promotion) : (w.add p).Layout := by
  have hlength := length_rows_add w p
  have hmem : ∀ pool ∈ (w.add p).pools,
      pool ∈ w.pools ∨ pool = ⟨p, List.range' w.rows.length p.codes.length⟩ := by
    intro pool hp
    simpa [World.add] using hp
  have hnew : ∀ pool ∈ w.pools, ∀ r ∈ pool.rows,
      r ∉ List.range' w.rows.length p.codes.length := by
    intro pool hp r hr hr'
    have := h.inRange pool hp r hr
    have := (List.mem_range'_1.mp hr').1
    omega
  refine ⟨?_, ?_, ?_⟩
  · intro pool hp r hr
    rcases hmem pool hp with hold | rfl
    · have := h.inRange pool hold r hr
      omega
    · have := (List.mem_range'_1.mp hr).2
      omega
  · intro pool hp
    rcases hmem pool hp with hold | rfl
    · exact h.nodup pool hold
    · exact List.nodup_range'
  · intro a ha b hb r hra hrb
    rcases hmem a ha with haold | rfl <;> rcases hmem b hb with hbold | rfl
    · exact h.apart a haold b hbold r hra hrb
    · exact absurd hrb (hnew a haold r hra)
    · exact absurd hra (hnew b hbold r hrb)
    · rfl

theorem insert (h : w.Layout) (p : Promotion) : (w.insert p).Layout := (h.remove p.id).add p

end Layout

/-! ### What worlds do is what their stores do -/

theorem toStore_remove (w : World) (id : Uuid) : (w.remove id).toStore = w.toStore.remove id := by
  simp only [toStore_eq, remove, Store.remove, List.filter_map]
  rfl

theorem toStore_rewrite (w : World) (id : Uuid) (content : Content) :
    (w.rewrite id content).toStore = w.toStore.modify id fun p => { p with content } := by
  simp only [toStore_eq, rewrite, Store.modify, List.map_map, Store.mk.injEq]
  apply List.map_congr_left
  intro pool _
  by_cases hid : pool.promotion.id = id
  · simp only [Function.comp, hid, if_true, present]
    rfl
  · simp only [Function.comp, hid, if_false, present]
    rfl

/-- A list looked up place by place is that list. -/
private theorem filterMap_range'_eq {α : Type} {f : Nat → Option α} {l : List α} {start : Nat}
    (h : ∀ i, f (start + i) = l[i]?) : (List.range' start l.length).filterMap f = l := by
  induction l generalizing start with
  | nil => rfl
  | cons a l ih =>
    have hhead : f start = some a := h 0
    have htail : ∀ i, f (start + 1 + i) = l[i]? := by
      intro i
      rw [Nat.add_assoc, Nat.add_comm 1 i, h]
      rfl
    rw [List.length_cons, List.range'_succ, List.filterMap_cons_some hhead, ih htail]

/-- Rows that exist count what they counted before. -/
theorem present_add {w : World} (h : w.Layout) (p : Promotion) {pool : Pool}
    (hpool : pool ∈ w.pools) : (w.add p).present pool = w.present pool := by
  have hcounts : pool.rows.filterMap (w.add p).count? = pool.rows.filterMap w.count? := by
    apply List.filterMap_congr
    intro r hr
    rw [count?_add, if_pos (h.inRange pool hpool r hr)]
  rw [present, present, hcounts]

/-- New rows count what the codes of the new promotion count. -/
theorem present_add_self (w : World) (p : Promotion) :
    (w.add p).present ⟨p, List.range' w.rows.length p.codes.length⟩ = p := by
  have hcodes : (List.range' w.rows.length p.codes.length).filterMap (w.add p).count? = p.codes :=
    filterMap_range'_eq fun i => by
      rw [count?_add, if_neg (by omega), Nat.add_sub_cancel_left]
  rw [present, hcodes]

theorem toStore_add {w : World} (h : w.Layout) (p : Promotion) :
    (w.add p).toStore = ⟨w.toStore.promotions ++ [p]⟩ := by
  have hpools : (w.add p).pools =
      w.pools ++ [⟨p, List.range' w.rows.length p.codes.length⟩] := rfl
  rw [toStore_eq, hpools, List.map_append, List.map_singleton, present_add_self]
  congr 2
  exact List.map_congr_left fun pool hp => present_add h p hp

/-- To insert a promotion with rows is to insert it in the store. -/
theorem toStore_insert {w : World} (h : w.Layout) (p : Promotion) :
    (w.insert p).toStore = w.toStore.insert p := by
  rw [insert, toStore_add (h.remove p.id), toStore_remove]
  rfl

/-- To update a promotion with rows is to update it in the store. -/
theorem update_toStore (w : World) (id company : Uuid) (content : Content) :
    ((w.update id company content).1, (w.update id company content).2.toStore) =
      w.toStore.update id company content := by
  unfold update Store.update
  cases w.toStore.owned id company with
  | error f => rfl
  | ok u => rw [toStore_rewrite]

/-- To delete a promotion with rows is to delete it in the store. -/
theorem delete_toStore (w : World) (id company : Uuid) :
    ((w.delete id company).1, (w.delete id company).2.toStore) =
      w.toStore.delete id company := by
  unfold delete Store.delete
  cases w.toStore.owned id company with
  | error f => rfl
  | ok u => rw [toStore_remove]

/-! ### The world of a store -/

theorem foldl_add_toStore (ps : List Promotion) {w : World} (h : w.Layout) :
    (ps.foldl add w).Layout ∧ (ps.foldl add w).toStore = ⟨w.toStore.promotions ++ ps⟩ := by
  induction ps generalizing w with
  | nil => simpa using h
  | cons p ps ih =>
    obtain ⟨hlayout, hstore⟩ := ih (h.add p)
    refine ⟨hlayout, ?_⟩
    rw [List.foldl_cons, hstore, toStore_add h]
    simp

/-- The rows that are made for a store belong to one promotion each. -/
theorem layout_ofStore (s : Store) : (ofStore s).Layout := (foldl_add_toStore _ .empty).1

/-- The world of a store has that store's promotions, with the same counts. -/
theorem toStore_ofStore (s : Store) : (ofStore s).toStore = s := by
  rw [ofStore, (foldl_add_toStore s.promotions .empty).2]
  rfl

theorem holder?_ofStore (s : Store) (r : Nat) : (ofStore s).holder? r = none := by
  have hfold : ∀ (ps : List Promotion) (w : World),
      (ps.foldl add w).holder? r = w.holder? r := by
    intro ps
    induction ps with
    | nil => exact fun _ => rfl
    | cons p ps ih =>
      intro w
      rw [List.foldl_cons, ih, holder?_add]
  rw [ofStore, hfold]
  rfl

/-- The rows of a store's world are the codes of its promotions. -/
theorem mem_codes_of_count?_ofStore {s : Store} {r : Nat} {k : CodeCount}
    (h : (ofStore s).count? r = some k) : ∃ p ∈ s.promotions, k ∈ p.codes := by
  have hfold : ∀ (ps : List Promotion) (w : World), (ps.foldl add w).count? r = some k →
      w.count? r = some k ∨ ∃ p ∈ ps, k ∈ p.codes := by
    intro ps
    induction ps with
    | nil => exact fun w hw => Or.inl hw
    | cons p ps ih =>
      intro w hw
      rcases ih (w.add p) hw with hadd | ⟨q, hq, hk⟩
      · rw [count?_add] at hadd
        split at hadd
        · exact Or.inl hadd
        · exact Or.inr ⟨p, List.mem_cons_self, List.mem_of_getElem? hadd⟩
      · exact Or.inr ⟨q, List.mem_cons_of_mem _ hq, hk⟩
  rcases hfold s.promotions {} h with hempty | hfound
  · simp [count?] at hempty
  · exact hfound

end World

end Promotions.Memory
