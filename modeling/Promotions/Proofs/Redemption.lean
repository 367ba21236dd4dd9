import Mathlib
import Promotions.Proofs.Invariant

/-!
No code is handed out more often than it may be, whatever the order of events. A row counts the
calls that were counted in it and never more than it may, and a call hands out a code only after it
was counted in the row of that code.
-/

namespace Promotions.Memory

/-! ### Calls that were granted a code -/

namespace Call

def answer? : Call → Option (Except Failure String)
  | ⟨.activate _, .asking (.done a), _, _⟩ => some a
  | _ => none

/-- The row whose code an activation has returned. -/
def granted? (c : Call) : Option Nat :=
  match c.answer? with
  | some (.ok _) => c.counted
  | _ => none

variable {w : World} {c : Call}

theorem counted_of_granted? {r : Nat} (h : c.granted? = some r) : c.counted = some r := by
  unfold granted? at h
  split at h
  · exact h
  · cases h

theorem operation_of_answer? {a : Except Failure String} (h : c.answer? = some a) :
    ∃ id captured counted, c = ⟨.activate id, .asking (.done a), captured, counted⟩ := by
  unfold answer? at h
  split at h
  · cases h
    exact ⟨_, _, _, rfl⟩
  · cases h

/-- The code that an activation has returned is the one of the row in which it was counted. -/
theorem Placed.granted_of_answer? (h : c.Placed w) {code : String}
    (hanswer : c.answer? = some (.ok code)) :
    ∃ r, c.granted? = some r ∧ r ∈ c.captured ∧ w.codeAt r = code := by
  obtain ⟨id, captured, counted, rfl⟩ := operation_of_answer? hanswer
  cases h.1 with
  | returned hr => exact ⟨_, rfl, hr, rfl⟩

/-- A call that was counted has returned the code, unless it was given up or is on its way. -/
theorem Placed.granted_of_counted (h : c.Placed w) {r : Nat} (hr : c.counted = some r)
    (hkept : c.stage ≠ .abandoned) (hfinished : c.stage.unfinished = false) :
    c.granted? = some r := by
  obtain ⟨o, stage, captured, counted⟩ := c
  by_cases ho : ∃ id, o = .activate id
  · obtain ⟨id, rfl⟩ := ho
    cases h.1 with
    | returned _ => exact hr
    | begun | failed _ => cases hr
    | within _ _ _ _ | settling _ => cases hfinished
    | abandoned _ => exact absurd rfl hkept
  · have ho : ∀ id, o ≠ .activate id := fun id h => ho ⟨id, h⟩
    rw [placed_iff ho] at h
    cases h.2.2.1.symm.trans hr

end Call

namespace System

def grantedIn (s : System) (r : Nat) : Nat := s.calls.countP fun c => c.granted? = some r

def grantedAmong (s : System) (rows : List Nat) : Nat :=
  s.calls.countP fun c => ∃ r ∈ rows, c.granted? = some r

/-- No call was given up, and whoever was counted has returned. -/
def Settled (s : System) : Prop :=
  ∀ c ∈ s.calls, c.stage ≠ .abandoned ∧ (c.counted.isSome → c.stage.unfinished = false)

/-- Calls of two kinds that no call is of both. -/
theorem countP_or (calls : List Call) {p q : Call → Prop} [DecidablePred p] [DecidablePred q]
    (h : ∀ c, p c → ¬ q c) :
    calls.countP (fun c => p c ∨ q c) =
      calls.countP (fun c => p c) + calls.countP fun c => q c := by
  induction calls with
  | nil => rfl
  | cons c calls ih =>
    simp only [List.countP_cons, decide_eq_true_eq, ih]
    by_cases hp : p c
    · simp only [hp, h c hp, true_or, if_true, if_false]
      omega
    · simp only [hp, false_or, if_false]
      omega

/-- The calls that have one of several rows are those that have the first one, the second one and so
on, since a call has one row only. -/
theorem countP_exists_mem (calls : List Call) (f : Call → Option Nat) {rows : List Nat}
    (h : rows.Nodup) :
    calls.countP (fun c => ∃ r ∈ rows, f c = some r) =
      (rows.map fun r => calls.countP fun c => f c = some r).sum := by
  induction rows with
  | nil => simp
  | cons x rows ih =>
    obtain ⟨hx, hrows⟩ := List.nodup_cons.mp h
    have hapart : ∀ c, f c = some x → ¬ ∃ r ∈ rows, f c = some r := by
      rintro c hc ⟨r, hr, hcr⟩
      rw [hc, Option.some.injEq] at hcr
      exact hx (hcr ▸ hr)
    rw [List.map_cons, List.sum_cons, ← ih hrows, ← countP_or calls hapart]
    simp only [List.exists_mem_cons_iff]

variable {g : Nat → Int} {s s' : System}

/-- No row is granted to more calls than were counted in it. -/
theorem grantedIn_le_countedIn (s : System) (r : Nat) : s.grantedIn r ≤ s.countedIn r := by
  refine List.countP_mono_left fun c _ hc => ?_
  exact decide_eq_true (Call.counted_of_granted? (of_decide_eq_true hc))

theorem grantedAmong_le_sum (s : System) {rows : List Nat} (h : rows.Nodup) :
    s.grantedAmong rows ≤ (rows.map s.countedIn).sum := by
  have hcounted := countP_exists_mem s.calls Call.counted h
  refine Nat.le_trans (List.countP_mono_left fun c _ hc => ?_) (Nat.le_of_eq hcounted)
  obtain ⟨r, hr, hcr⟩ := of_decide_eq_true hc
  exact decide_eq_true ⟨r, hr, Call.counted_of_granted? hcr⟩

/-- When all has settled, the calls that were counted in a row have returned its code. -/
theorem Sound.grantedIn_eq_countedIn (h : s.Sound g) (hsettled : s.Settled) (r : Nat) :
    s.grantedIn r = s.countedIn r := by
  refine List.countP_congr fun c hc => ?_
  obtain ⟨hkept, hreturned⟩ := hsettled c hc
  simp only [decide_eq_true_eq]
  constructor
  · exact Call.counted_of_granted?
  · intro hr
    exact (h.placed c hc).granted_of_counted hr hkept (hreturned (by rw [hr]; rfl))

/-- What several rows count is what they counted at first and the calls counted in them since. -/
theorem Sound.sum_activations (h : s.Sound g) {rows : List Nat}
    (hlt : ∀ r ∈ rows, r < s.shared.world.rows.length) :
    ((rows.filterMap s.shared.world.count?).map (·.activations.toInt)).sum =
      (rows.map g).sum + ((rows.map s.countedIn).sum : Nat) := by
  induction rows with
  | nil => rfl
  | cons r rows ih =>
    obtain ⟨k, hk⟩ := World.exists_count?_of_lt (hlt r List.mem_cons_self)
    have hrest := ih fun x hx => hlt x (List.mem_cons_of_mem _ hx)
    have hrow := h.tally r k hk
    rw [List.filterMap_cons_some hk]
    simp only [List.map_cons, List.sum_cons, hrest, hrow]
    omega

/-- Rows count no more in all than they may in all. -/
theorem sum_activations_le (h : s.shared.world.Bounded) (rows : List Nat) :
    ((rows.filterMap s.shared.world.count?).map (·.activations.toInt)).sum ≤
      ((rows.filterMap s.shared.world.count?).map (·.maxCount.toInt)).sum := by
  induction rows with
  | nil => simp
  | cons r rows ih =>
    cases hk : s.shared.world.count? r with
    | none =>
      rw [List.filterMap_cons_none hk]
      exact ih
    | some k =>
      rw [List.filterMap_cons_some hk]
      simp only [List.map_cons, List.sum_cons]
      exact Int.add_le_add (h r k hk).2 ih

theorem sum_map_nonneg (hg : ∀ r, 0 ≤ g r) (rows : List Nat) : 0 ≤ (rows.map g).sum := by
  induction rows with
  | nil => exact Int.le_refl _
  | cons r rows ih =>
    simp only [List.map_cons, List.sum_cons]
    exact Int.add_nonneg (hg r) ih

/-- The codes of rows are handed out no more often than these rows allow together. -/
theorem Sound.grantedAmong_le (h : s.Sound g) (hbounded : s.shared.world.Bounded)
    (hgiven : ∀ r, 0 ≤ g r) {rows : List Nat} (hnodup : rows.Nodup)
    (hlt : ∀ r ∈ rows, r < s.shared.world.rows.length) :
    (s.grantedAmong rows : Int) ≤
      ((rows.filterMap s.shared.world.count?).map (·.maxCount.toInt)).sum := by
  have hgranted := s.grantedAmong_le_sum hnodup
  have hsum := h.sum_activations hlt
  have hbound := sum_activations_le hbounded rows
  have hfirst := sum_map_nonneg hgiven rows
  omega

/-! ### Starting with codes that were never used -/

theorem given_eq_zero {store : Store}
    (h : ∀ p ∈ store.promotions, ∀ c ∈ p.codes, c.activations.toInt = 0) (r : Nat) :
    given store r = 0 := by
  unfold given
  cases hk : (World.ofStore store).count? r with
  | none => rfl
  | some k =>
    obtain ⟨p, hp, hkp⟩ := World.mem_codes_of_count?_ofStore hk
    exact h p hp k hkp

/-- Nothing is redeemed too often. In a store whose codes were never used at first, whatever calls
are made, in whatever order their steps are taken, whatever the gate decides and whichever calls are
given up: a row never counts more than it may; every code returned belongs to a row in which its
call was counted; the calls that have returned the code of a row are no more than the row counts,
and just as many when all has settled; and the codes of a promotion, be it in the store or one that
some call still goes along, are returned no more often than all its rows allow. -/
theorem never_redeemed_too_often {store : Store} {cache : Cache} {ms : List Move} {s : System}
    (hunused : ∀ p ∈ store.promotions, ∀ c ∈ p.codes,
      c.activations.toInt = 0 ∧ 0 ≤ c.maxCount.toInt)
    (hrun : (start store cache).run ms = some s) :
    (∀ r k, s.shared.world.count? r = some k →
      0 ≤ k.activations.toInt ∧ k.activations.toInt ≤ k.maxCount.toInt ∧
      s.grantedIn r ≤ k.activations.toInt ∧
      (s.Settled → s.grantedIn r = k.activations.toInt) ∧
      (k.maxCount = 1 → s.grantedIn r ≤ 1)) ∧
    (∀ c ∈ s.calls, ∀ code, c.answer? = some (.ok code) → ∃ r k, c.granted? = some r ∧
      r ∈ c.captured ∧ s.shared.world.count? r = some k ∧ k.code = code) ∧
    (∀ pool ∈ s.shared.world.pools, (s.grantedAmong pool.rows : Int) ≤
      ((s.shared.world.present pool).codes.map (·.maxCount.toInt)).sum) ∧
    (∀ c ∈ s.calls, (s.grantedAmong c.captured : Int) ≤
      ((c.captured.filterMap s.shared.world.count?).map (·.maxCount.toInt)).sum) := by
  have hzero : ∀ r, given store r = 0 := given_eq_zero fun p hp c hc => (hunused p hp c hc).1
  have hfirst : (start store cache).shared.world.Bounded := by
    refine bounded_start cache fun p hp c hc => ?_
    obtain ⟨hnone, hmax⟩ := hunused p hp c hc
    omega
  have hstart := sound_start store cache
  have h : s.Sound (given store) := (hstart.run hrun).1
  have hbounded := hstart.bounded_run hfirst hrun
  have hnonneg : ∀ r, 0 ≤ given store r := fun r => Int.le_of_eq (hzero r).symm
  refine ⟨?_, ?_, ?_, ?_⟩
  · intro r k hk
    obtain ⟨hlow, hhigh⟩ := hbounded r k hk
    have htally := h.tally r k hk
    have hle := s.grantedIn_le_countedIn r
    rw [hzero] at htally
    refine ⟨hlow, hhigh, by omega, ?_, ?_⟩
    · intro hsettled
      rw [h.grantedIn_eq_countedIn hsettled]
      omega
    · intro hone
      have hone : k.maxCount.toInt = 1 := by rw [hone]; decide
      omega
  · intro c hc code hanswer
    obtain ⟨r, hgranted, hr, hcode⟩ := (h.placed c hc).granted_of_answer? hanswer
    have hlt := (h.placed c hc).counted_lt (Call.counted_of_granted? hgranted)
    obtain ⟨k, hk⟩ := World.exists_count?_of_lt hlt
    rw [World.codeAt_eq, hk] at hcode
    exact ⟨r, k, hgranted, hr, hk, hcode⟩
  · intro pool hp
    exact h.grantedAmong_le hbounded hnonneg (h.layout.nodup pool hp) (h.layout.inRange pool hp)
  · intro c hc
    obtain ⟨hnodup, hlt⟩ := (h.placed c hc).captured_rows
    exact h.grantedAmong_le hbounded hnonneg hnodup hlt

/-- Two calls at once for a code that is good for one activation. The second one finds the row held
and waits for it. -/
def soleCodeRace : List Move :=
  [.begin (.activate (Supply.idAt 0)), .begin (.activate (Supply.idAt 0))] ++
    turns [0, 0, 0, 1, 1, 1, 1, 0, 0, 0, 0, 0, 0, 1, 1, 1, 1]

/-- Only one of the two calls gets the code. -/
theorem sole_code_granted_once : ∃ s,
    (start (.single [⟨"SOLE", 0, 1⟩]) {}).run soleCodeRace = some s ∧ s.grantedIn 0 = 1 ∧
      ∀ r k, s.shared.world.count? r = some k → k.maxCount = 1 → s.grantedIn r ≤ 1 := by
  obtain ⟨s, hs⟩ := Option.isSome_iff_exists.mp
    (by decide : ((start (.single [⟨"SOLE", 0, 1⟩]) {}).run soleCodeRace).isSome)
  have hunused : ∀ p ∈ (Store.single [⟨"SOLE", 0, 1⟩]).promotions, ∀ c ∈ p.codes,
      c.activations.toInt = 0 ∧ 0 ≤ c.maxCount.toInt := by decide
  have hgranted : ((start (.single [⟨"SOLE", 0, 1⟩]) {}).run soleCodeRace).map (·.grantedIn 0) =
      some 1 := by decide
  obtain ⟨hrows, -⟩ := never_redeemed_too_often hunused hs
  rw [hs] at hgranted
  exact ⟨s, hs, Option.some.inj hgranted, fun r k hk => (hrows r k hk).2.2.2.2⟩

end System

end Promotions.Memory
