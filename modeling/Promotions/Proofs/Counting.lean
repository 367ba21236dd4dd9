import Promotions.Proofs.Turns

/-!
What holds of the rows and of all calls after any schedule: who holds a row is the call that says
so, an activation that is about to be counted has room, and every row counts as many activations as
calls were counted in it.
-/

namespace Promotions.Memory

/-! ### Worlds that grow -/

/-- A later world: rows stay, their counts do not fall, and new promotions have new rows. -/
structure World.Grows (w w' : World) : Prop where
  length : w.rows.length ≤ w'.rows.length
  counts : ∀ r k, w.count? r = some k → ∃ k', w'.count? r = some k' ∧ k'.code = k.code ∧
    k'.maxCount = k.maxCount ∧ k.activations.toInt ≤ k'.activations.toInt
  pools : ∀ pool' ∈ w'.pools, ∀ r ∈ pool'.rows, r < w.rows.length →
    ∃ pool ∈ w.pools, r ∈ pool.rows ∧ pool.promotion.id = pool'.promotion.id

namespace World.Grows

variable {w w' w'' : World}

theorem refl (w : World) : w.Grows w :=
  ⟨Nat.le_refl _, fun _ k h => ⟨k, h, rfl, rfl, Int.le_refl _⟩,
    fun pool hp _ hr _ => ⟨pool, hp, hr, rfl⟩⟩

theorem trans (h : w.Grows w') (h' : w'.Grows w'') : w.Grows w'' := by
  refine ⟨Nat.le_trans h.length h'.length, ?_, ?_⟩
  · intro r k hk
    obtain ⟨k₁, hk₁, hcode₁, hmax₁, hle₁⟩ := h.counts r k hk
    obtain ⟨k₂, hk₂, hcode₂, hmax₂, hle₂⟩ := h'.counts r k₁ hk₁
    exact ⟨k₂, hk₂, hcode₂.trans hcode₁, hmax₂.trans hmax₁, Int.le_trans hle₁ hle₂⟩
  · intro pool'' hp'' r hr hlt
    obtain ⟨pool', hp', hr', hid'⟩ := h'.pools pool'' hp'' r hr (by have := h.length; omega)
    obtain ⟨pool, hp, hr, hid⟩ := h.pools pool' hp' r hr' hlt
    exact ⟨pool, hp, hr, hid.trans hid'⟩

/-- A world has grown if only promotions were taken out or rewritten, and the counts are the
same. -/
theorem of_count?_eq (hlength : w'.rows.length = w.rows.length) (hcount : w'.count? = w.count?)
    (hpools : ∀ pool' ∈ w'.pools, ∃ pool ∈ w.pools, pool.rows = pool'.rows ∧
      pool.promotion.id = pool'.promotion.id) : w.Grows w' := by
  refine ⟨Nat.le_of_eq hlength.symm, ?_, ?_⟩
  · intro r k hk
    exact ⟨k, by rw [hcount, hk], rfl, rfl, Int.le_refl _⟩
  · intro pool' hp' r hr _
    obtain ⟨pool, hp, hrows, hid⟩ := hpools pool' hp'
    exact ⟨pool, hp, hrows ▸ hr, hid⟩

theorem hold (w : World) (r i : Nat) : w.Grows (w.hold r i) :=
  of_count?_eq (by simp) (by funext x; simp) fun pool hp => ⟨pool, hp, rfl, rfl⟩

theorem release (w : World) (r : Nat) : w.Grows (w.release r) :=
  of_count?_eq (by simp) (by funext x; simp) fun pool hp => ⟨pool, hp, rfl, rfl⟩

theorem remove (w : World) (id : Uuid) : w.Grows (w.remove id) :=
  of_count?_eq rfl rfl fun pool hp => ⟨pool, (List.mem_filter.mp hp).1, rfl, rfl⟩

theorem rewrite (w : World) (id : Uuid) (content : Content) : w.Grows (w.rewrite id content) := by
  refine of_count?_eq rfl rfl fun pool' hp' => ?_
  obtain ⟨pool, hp, rfl⟩ := List.mem_map.mp hp'
  refine ⟨pool, hp, ?_⟩
  split <;> exact ⟨rfl, rfl⟩

/-- Counting an activation makes a world grow, since the row has room for it. -/
theorem redeem (w : World) {r : Nat} (h : w.roomAt r = true) : w.Grows (w.redeem r) := by
  refine ⟨by simp, ?_, fun pool hp x hx _ => ⟨pool, hp, hx, rfl⟩⟩
  intro x k hk
  by_cases hx : r = x
  · subst hx
    have hroom : hasRoom k = true := by simpa [roomAt_eq, hk] using h
    refine ⟨redeemed k, by simp [count?_redeem, hk], rfl, rfl, ?_⟩
    rw [toInt_redeemed k hroom]
    omega
  · exact ⟨k, by simp [count?_redeem, hx, hk], rfl, rfl, Int.le_refl _⟩

/-- A new promotion takes new rows and leaves the others alone. -/
theorem insert (w : World) (p : Promotion) : w.Grows (w.insert p) := by
  refine ⟨by simp [length_rows_insert], ?_, ?_⟩
  · intro r k hk
    refine ⟨k, ?_, rfl, rfl, Int.le_refl _⟩
    rw [count?_insert, if_pos (lt_of_count? hk), hk]
  · intro pool' hp' r hr hlt
    rcases List.mem_append.mp hp' with hold | hnew
    · exact ⟨pool', (List.mem_filter.mp hold).1, hr, rfl⟩
    · obtain rfl := List.mem_singleton.mp hnew
      have hle : w.rows.length ≤ r := (List.mem_range'_1.mp hr).1
      omega

/-- The code of a row that is there stays the same in later worlds. -/
theorem codeAt (h : w.Grows w') {r : Nat} (hr : r < w.rows.length) :
    w'.codeAt r = w.codeAt r := by
  obtain ⟨k, hk⟩ := exists_count?_of_lt hr
  obtain ⟨k', hk', hcode, -⟩ := h.counts r k hk
  simp [codeAt_eq, hk, hk', hcode]

/-- What codes say apart from their counts stays the same. -/
theorem map_congr (h : w.Grows w') {β : Type} {f : CodeCount → β} {rows : List Nat}
    (hlt : ∀ r ∈ rows, r < w.rows.length)
    (hf : ∀ k k' : CodeCount, k'.code = k.code → k'.maxCount = k.maxCount → f k' = f k) :
    (rows.filterMap w'.count?).map f = (rows.filterMap w.count?).map f := by
  induction rows with
  | nil => rfl
  | cons r rows ih =>
    obtain ⟨k, hk⟩ := exists_count?_of_lt (hlt r List.mem_cons_self)
    obtain ⟨k', hk', hcode, hmax, -⟩ := h.counts r k hk
    rw [List.filterMap_cons_some hk, List.filterMap_cons_some hk', List.map_cons, List.map_cons,
      hf k k' hcode hmax, ih fun x hx => hlt x (List.mem_cons_of_mem _ hx)]

/-- A row without room never gets room again. -/
theorem full (h : w.Grows w') {r : Nat} (hr : r < w.rows.length) (hfull : w.roomAt r = false) :
    w'.roomAt r = false := by
  obtain ⟨k, hk⟩ := exists_count?_of_lt hr
  obtain ⟨k', hk', -, hmax, hle⟩ := h.counts r k hk
  simp only [roomAt_eq, hk, hk', Option.any_some, hasRoom, decide_eq_false_iff_not,
    Int64.lt_iff_toInt_lt, hmax] at hfull ⊢
  omega

end World.Grows

/-! ### What each turn keeps -/

/-- The holders of the rows are those who say that they hold them. -/
def World.HeldBy (w : World) (held : Nat → Option Nat) : Prop :=
  ∀ r i, w.holder? r = some i ↔ held i = some r

/-- No row counts less than nothing or more than it may. -/
def World.Bounded (w : World) : Prop :=
  ∀ r k, w.count? r = some k → 0 ≤ k.activations.toInt ∧ k.activations.toInt ≤ k.maxCount.toInt

namespace World.HeldBy

variable {w : World} {held : Nat → Option Nat} {i r : Nat}

/-- Whoever takes a row that nobody holds becomes its holder, and all others hold what they held. -/
theorem hold (h : w.HeldBy held) (hi : held i = none) (hr : r < w.rows.length)
    (hfree : w.held r = false) :
    (w.hold r i).HeldBy fun j => if j = i then some r else held j := by
  have hnone : w.holder? r = none := by simpa [held_eq] using hfree
  intro x j
  rw [holder?_hold]
  by_cases hj : j = i
  · subst hj
    by_cases hx : r = x
    · simp [← hx, hr]
    · have hno : w.holder? x ≠ some j := fun hx => by simp [(h x j).mp hx] at hi
      simp [hx, hno]
  · by_cases hx : r = x
    · subst hx
      have hno : held j ≠ some r := fun hj => by simp [(h r j).mpr hj] at hnone
      simp [hr, hj, hno, Ne.symm hj]
    · simp [hx, hj, h x j]

/-- Whoever lets go of a row is no longer its holder, and all others hold what they held. -/
theorem release (h : w.HeldBy held) (hi : held i = some r) :
    (w.release r).HeldBy fun j => if j = i then none else held j := by
  have hholder : w.holder? r = some i := (h r i).mpr hi
  intro x j
  rw [holder?_release]
  by_cases hj : j = i
  · subst hj
    by_cases hx : r = x
    · simp [hx]
    · have hno : w.holder? x ≠ some j := fun hxj => by
        rw [(h x j).mp hxj, Option.some.injEq] at hi
        exact hx hi.symm
      simp [hx, hno]
  · by_cases hx : r = x
    · subst hx
      have hno : held j ≠ some r := fun hjr => by
        rw [(h r j).mpr hjr, Option.some.injEq] at hholder
        exact hj hholder
      simp [hj, hno]
    · simp [hx, hj, h x j]

/-- Two callers never hold the same row. -/
theorem injective (h : w.HeldBy held) {j : Nat} (hi : held i = some r) (hj : held j = some r) :
    i = j := by
  have hholder := (h r i).mpr hi
  rw [(h r j).mpr hj, Option.some.injEq] at hholder
  exact hholder.symm

theorem congr {w' : World} {held' : Nat → Option Nat} (h : w.HeldBy held)
    (hholder : ∀ r, w'.holder? r = w.holder? r) (hheld : ∀ j, held' j = held j) :
    w'.HeldBy held' := by
  intro x j
  rw [hholder, hheld]
  exact h x j

end World.HeldBy

namespace Turn

variable {α : Type} {caller : Nat} {w w' : World} {st st' : Stage α} {note : Option Note}

/-- No turn of a caller spoils the layout of the rows. -/
theorem layout (t : Turn caller w st st' note w') (h : w.Layout) : w'.Layout := by
  cases t with
  | rest _ _ _ => exact h
  | take _ _ _ _ _ => exact h.of_rows rfl (by simp)
  | drop _ _ _ => exact h.of_rows rfl (by simp)
  | count _ _ => exact h.of_rows rfl (by simp)
  | insert _ _ _ _ _ => exact h.insert _
  | rewrite _ _ _ => exact h.rewrite ..
  | remove _ _ _ => exact h.remove _

/-- Every turn of a caller lets the world grow, if it counts only where there is room. -/
theorem grows (t : Turn caller w st st' note w')
    (hroom : ∀ r, st.ready? = some r → w.roomAt r = true) : w.Grows w' := by
  cases t with
  | rest _ _ _ => exact .refl w
  | take _ _ _ _ _ => exact .hold ..
  | drop _ _ _ => exact .release ..
  | count hbefore _ =>
    subst hbefore
    exact .redeem w (hroom _ rfl)
  | insert _ _ _ _ _ => exact .insert ..
  | rewrite _ _ _ => exact .rewrite ..
  | remove _ _ _ => exact .remove ..

/-- After a turn the holders are again those who say so. -/
theorem heldBy (t : Turn caller w st st' note w') {held : Nat → Option Nat}
    (h : w.HeldBy held) (hcaller : held caller = st.held?)
    (hrows : ∀ r ∈ st.rows, r < w.rows.length) :
    w'.HeldBy fun j => if j = caller then st'.held? else held j := by
  have hsame (heq : st'.held? = st.held?) (j : Nat) :
      (if j = caller then st'.held? else held j) = held j := by
    split
    · rename_i hj
      rw [hj, hcaller, heq]
    · rfl
  cases t with
  | rest _ hheld _ => exact h.congr (fun _ => rfl) (hsame hheld)
  | take hr hfree hbefore hheld _ =>
    rw [hheld]
    exact h.hold (hcaller.trans hbefore) (hrows _ hr) hfree
  | drop hbefore hheld _ =>
    rw [hheld]
    exact h.release (hcaller.trans hbefore)
  | count hbefore hafter =>
    exact h.congr (fun _ => by simp) (hsame (by rw [hbefore, hafter]; rfl))
  | insert _ _ hbefore hheld _ =>
    exact h.congr (fun _ => by simp) (hsame (hheld.trans hbefore.symm))
  | rewrite hbefore hheld _ => exact h.congr (fun _ => rfl) (hsame (hheld.trans hbefore.symm))
  | remove hbefore hheld _ => exact h.congr (fun _ => rfl) (hsame (hheld.trans hbefore.symm))

/-- No turn brings a count out of its bounds, if it counts only where there is room. -/
theorem bounded (t : Turn caller w st st' note w') (h : w.Bounded)
    (hroom : ∀ r, st.ready? = some r → w.roomAt r = true) : w'.Bounded := by
  intro r k hk
  cases t with
  | rest _ _ _ => exact h r k hk
  | take _ _ _ _ _ => exact h r k (by simpa using hk)
  | drop _ _ _ => exact h r k (by simpa using hk)
  | @count id x next hbefore _ =>
    subst hbefore
    have hready : w.roomAt x = true := hroom x rfl
    rw [World.count?_redeem] at hk
    split at hk
    · rename_i hx
      subst hx
      obtain ⟨old, hold, rfl⟩ := Option.map_eq_some_iff.mp hk
      have hlt : hasRoom old = true := by simpa [World.roomAt_eq, hold] using hready
      have hbounds := h x old hold
      rw [toInt_redeemed old hlt]
      simp only [hasRoom, decide_eq_true_eq, Int64.lt_iff_toInt_lt] at hlt
      simp only [redeemed]
      omega
    · exact h r k hk
  | insert hcodes _ _ _ _ =>
    rw [World.count?_insert] at hk
    split at hk
    · exact h r k hk
    · obtain ⟨hzero, hmax⟩ := hcodes k (List.mem_of_getElem? hk)
      omega
  | rewrite _ _ _ => exact h r k hk
  | remove _ _ _ => exact h r k hk

/-- What another caller has found room in keeps it. -/
theorem roomAt_of_ne (t : Turn caller w st st' note w') {r : Nat} (hr : w.roomAt r = true)
    (hne : st.held? ≠ some r) : w'.roomAt r = true := by
  have hkept (hcount : w'.count? r = w.count? r) : w'.roomAt r = true := by
    rw [World.roomAt_eq, hcount, ← World.roomAt_eq, hr]
  cases t with
  | rest _ _ _ => exact hr
  | take _ _ _ _ _ => exact hkept (by simp)
  | drop _ _ _ => exact hkept (by simp)
  | count hbefore _ =>
    apply hkept
    rw [World.count?_redeem, if_neg]
    rintro rfl
    exact hne (by rw [hbefore]; rfl)
  | insert _ _ _ _ _ =>
    apply hkept
    rw [World.roomAt_eq, Option.any_eq_true] at hr
    obtain ⟨k, hk, -⟩ := hr
    rw [World.count?_insert, if_pos (World.lt_of_count? hk)]
  | rewrite _ _ _ => exact hr
  | remove _ _ _ => exact hr

/-- What the caller itself has found room in has room. -/
theorem roomAt_of_ready (t : Turn caller w st st' note w')
    (hroom : ∀ r, st.ready? = some r → w.roomAt r = true) :
    ∀ r, st'.ready? = some r → w'.roomAt r = true := by
  intro r hr
  cases t with
  | rest _ _ hready =>
    rcases hready r hr with hbefore | ⟨-, hfound⟩
    · exact hroom r hbefore
    · exact hfound
  | take _ _ _ _ hready => simp [hready] at hr
  | drop _ _ hready => simp [hready] at hr
  | count _ hafter =>
    rw [hafter] at hr
    cases hr
  | insert _ _ _ _ hready => simp [hready] at hr
  | rewrite _ _ hready => simp [hready] at hr
  | remove _ _ hready => simp [hready] at hr

/-- Only an activation that has decided to count is noted as counted. -/
theorem deciding_of_counted (t : Turn caller w st st' note w') {id : Uuid} {r : Nat}
    (hnote : note = some (.counted id r)) : ∃ next, st = .activating id (.deciding r) next := by
  cases t with
  | rest hno _ _ => exact absurd hnote (hno id r)
  | count hbefore _ =>
    cases hnote
    exact ⟨_, hbefore⟩
  | insert _ hinsert _ _ _ =>
    rw [hinsert] at hnote
    obtain ⟨pool, -, h⟩ := Option.map_eq_some_iff.mp hnote
    cases h
  | take _ _ _ _ _ | drop _ _ _ | rewrite _ _ _ | remove _ _ _ => cases hnote

/-- A row counts what it counted, or one more that is noted, or it is new and counts nothing. -/
theorem tally (t : Turn caller w st st' note w')
    (hroom : ∀ r, st.ready? = some r → w.roomAt r = true)
    {r : Nat} {k : CodeCount} (hk : w'.count? r = some k) :
    (w.count? r = some k ∧ ∀ id, note ≠ some (.counted id r)) ∨
      (∃ id old, note = some (.counted id r) ∧ w.count? r = some old ∧
        k.activations.toInt = old.activations.toInt + 1) ∨
      (w.rows.length ≤ r ∧ k.activations.toInt = 0 ∧ ∀ id, note ≠ some (.counted id r)) := by
  cases t with
  | rest hnote _ _ => exact Or.inl ⟨hk, fun id => hnote id r⟩
  | take _ _ _ _ _ => exact Or.inl ⟨by simpa using hk, fun id h => by cases h⟩
  | drop _ _ _ => exact Or.inl ⟨by simpa using hk, fun id h => by cases h⟩
  | @count id x next hbefore _ =>
    subst hbefore
    have hready : w.roomAt x = true := hroom x rfl
    rw [World.count?_redeem] at hk
    split at hk
    · rename_i hx
      subst hx
      obtain ⟨old, hold, rfl⟩ := Option.map_eq_some_iff.mp hk
      have hlt : hasRoom old = true := by simpa [World.roomAt_eq, hold] using hready
      exact Or.inr (Or.inl ⟨id, old, rfl, hold, toInt_redeemed old hlt⟩)
    · rename_i hx
      refine Or.inl ⟨hk, fun id h => ?_⟩
      cases h
      exact hx rfl
  | insert hcodes hnote _ _ _ =>
    have hno : ∀ id, note ≠ some (.counted id r) := by
      intro id h
      rw [hnote] at h
      obtain ⟨pool, -, h⟩ := Option.map_eq_some_iff.mp h
      cases h
    rw [World.count?_insert] at hk
    split at hk
    · exact Or.inl ⟨hk, hno⟩
    · rename_i hlt
      have hzero := (hcodes k (List.mem_of_getElem? hk)).1
      exact Or.inr (Or.inr ⟨Nat.le_of_not_lt hlt, hzero, hno⟩)
  | rewrite _ _ _ => exact Or.inl ⟨hk, fun id h => by cases h⟩
  | remove _ _ _ => exact Or.inl ⟨hk, fun id h => by cases h⟩

end Turn

end Promotions.Memory
