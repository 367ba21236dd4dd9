import Mathlib.Data.List.Nodup
import Mathlib.Logic.Relation
import Promotions.Proofs.Turns

/-!
Calls that run alone. A call that nobody comes in between does what its operation does in the
environment, where every question is answered at once: promotions are copied as they are, and an
activation is counted in the first row that has room.
-/

namespace Promotions.Memory

/-! ### Rows that nobody holds -/

namespace World

/-- Nobody holds a row. -/
def Free (w : World) : Prop := ∀ r, w.holder? r = none

def Distinct (w : World) : Prop := (w.pools.map (·.promotion.id)).Nodup

variable {w : World}

theorem Free.held (h : w.Free) (r : Nat) : w.held r = false := by
  rw [held_eq, h r]
  rfl

theorem modify_congr {r : Nat} {f g : Row → Row}
    (h : ∀ row, w.rows[r]? = some row → f row = g row) : w.modify r f = w.modify r g := by
  have hrows : w.rows.modify r f = w.rows.modify r g := by
    apply List.ext_getElem?
    intro x
    rw [List.getElem?_modify, List.getElem?_modify]
    by_cases hx : r = x
    · subst hx
      cases hrow : w.rows[r]? with
      | none => simp
      | some row => simp [h row hrow]
    · simp [hx]
  simp only [modify, hrows]

theorem modify_modify (r : Nat) (f g : Row → Row) :
    (w.modify r f).modify r g = w.modify r (g ∘ f) := by
  simp only [modify, List.modify_modify_eq]

theorem modify_id (r : Nat) : w.modify r id = w := by
  simp only [modify, List.modify_id]

theorem Free.holder (h : w.Free) {r : Nat} {row : Row} (hrow : w.rows[r]? = some row) :
    row.holder = none := by
  have hnone := h r
  rwa [holder?, hrow, Option.bind_some] at hnone

/-- Nothing is left of a row held and let go. -/
theorem Free.release_hold (h : w.Free) (r i : Nat) : (w.hold r i).release r = w := by
  rw [hold, release, modify_modify]
  refine (modify_congr fun row hrow => ?_).trans (modify_id r)
  have hnone := h.holder hrow
  obtain ⟨count, holder⟩ := row
  subst hnone
  rfl

/-- Only the activation is left of a row held, counted in and let go. -/
theorem Free.release_redeem_hold (h : w.Free) (r i : Nat) :
    ((w.hold r i).redeem r).release r = w.redeem r := by
  rw [hold, redeem, release, modify_modify, modify_modify, redeem]
  refine modify_congr fun row hrow => ?_
  have hnone := h.holder hrow
  obtain ⟨count, holder⟩ := row
  subst hnone
  rfl

theorem Free.redeem (h : w.Free) (r : Nat) : (w.redeem r).Free := by
  intro x
  rw [holder?_redeem]
  exact h x

theorem Free.insert (h : w.Free) (p : Promotion) : (w.insert p).Free := by
  intro x
  rw [holder?_insert]
  exact h x

theorem Distinct.remove (h : w.Distinct) (id : Uuid) : (w.remove id).Distinct :=
  h.sublist (List.filter_sublist.map _)

theorem Distinct.insert (h : w.Distinct) (p : Promotion) : (w.insert p).Distinct := by
  have hnew : ∀ pool ∈ (w.remove p.id).pools, pool.promotion.id ≠ p.id := by
    intro pool hpool
    simpa using (List.mem_filter.mp hpool).2
  have hdistinct : ((w.remove p.id).pools.map (·.promotion.id) ++ [p.id]).Nodup := by
    refine List.nodup_append.mpr ⟨h.remove p.id, List.nodup_singleton _, ?_⟩
    intro id hid id' hid'
    obtain ⟨pool, hpool, rfl⟩ := List.mem_map.mp hid
    rw [List.mem_singleton.mp hid']
    exact hnew pool hpool
  simpa [Distinct, World.insert, add] using hdistinct

theorem Distinct.rewrite (h : w.Distinct) (id : Uuid) (content : Content) :
    (w.rewrite id content).Distinct := by
  have hids : (w.rewrite id content).pools.map (·.promotion.id) =
      w.pools.map (·.promotion.id) := by
    rw [World.rewrite, List.map_map]
    apply List.map_congr_left
    intro pool _
    simp only [Function.comp]
    split <;> rfl
  rw [Distinct, hids]
  exact h

/-- A world in which nothing is under way: nobody holds a row, and every promotion and every row is
there once. -/
structure AtRest (w : World) : Prop where
  free : w.Free
  distinct : w.Distinct
  layout : w.Layout

namespace AtRest

/-- Nothing is under way after a promotion has been inserted, if nothing was before. -/
theorem insert (h : w.AtRest) (p : Promotion) : (w.insert p).AtRest :=
  ⟨h.free.insert p, h.distinct.insert p, h.layout.insert p⟩

theorem redeem (h : w.AtRest) (r : Nat) : (w.redeem r).AtRest :=
  ⟨h.free.redeem r, h.distinct, h.layout.of_rows rfl (by simp)⟩

theorem update (h : w.AtRest) (id company : Uuid) (content : Content) :
    (w.update id company content).2.AtRest := by
  unfold World.update
  cases w.toStore.owned id company with
  | error f => exact h
  | ok u => exact ⟨h.free, h.distinct.rewrite id content, h.layout.rewrite id content⟩

theorem delete (h : w.AtRest) (id company : Uuid) : (w.delete id company).2.AtRest := by
  unfold World.delete
  cases w.toStore.owned id company with
  | error f => exact h
  | ok u => exact ⟨h.free, h.distinct.remove id, h.layout.remove id⟩

end AtRest

/-! ### What an activation does to the store -/

/-- The next code to hand out is that of the first row with room. -/
theorem nextCode?_present (w : World) (pool : Pool) :
    nextCode? (w.present pool).codes = (pool.rows.find? w.roomAt).map w.codeAt := by
  have hrows : ∀ rows : List Nat,
      nextCode? (rows.filterMap w.count?) = (rows.find? w.roomAt).map w.codeAt := by
    intro rows
    induction rows with
    | nil => rfl
    | cons r rows ih =>
      cases hcount : w.count? r with
      | none =>
        have hroom : w.roomAt r = false := by rw [roomAt_eq, hcount]; rfl
        rw [List.filterMap_cons_none hcount, List.find?_cons_of_neg (by simp [hroom]), ih]
      | some k =>
        have hroom : w.roomAt r = hasRoom k := by rw [roomAt_eq, hcount]; rfl
        have hcode : w.codeAt r = k.code := by rw [codeAt_eq, hcount]; rfl
        rw [List.filterMap_cons_some hcount]
        unfold nextCode? at ih ⊢
        cases hk : hasRoom k with
        | true =>
          rw [List.find?_cons_of_pos hk, List.find?_cons_of_pos (hroom.trans hk)]
          simp [hcode]
        | false =>
          rw [List.find?_cons_of_neg (by simp [hk]), List.find?_cons_of_neg (by simp [hroom, hk]),
            ih]
  exact hrows pool.rows

/-- An activation counted in the first row with room is the next one of its promotion. -/
theorem codes_redeem {rows : List Nat} (hnodup : rows.Nodup) {r : Nat}
    (hfirst : rows.find? w.roomAt = some r) :
    rows.filterMap (w.redeem r).count? = redeemNext (rows.filterMap w.count?) := by
  induction rows with
  | nil => cases hfirst
  | cons x rows ih =>
    obtain ⟨hx, hnodup⟩ := List.nodup_cons.mp hnodup
    cases hroom : w.roomAt x with
    | true =>
      rw [List.find?_cons_of_pos hroom, Option.some.injEq] at hfirst
      subst hfirst
      have hrest : rows.filterMap (w.redeem x).count? = rows.filterMap w.count? := by
        apply List.filterMap_congr
        intro y hy
        have hne : x ≠ y := fun heq => hx (heq ▸ hy)
        rw [count?_redeem, if_neg hne]
      rw [roomAt_eq] at hroom
      obtain ⟨k, hk, hkroom⟩ := (Option.any_eq_true _ _).mp hroom
      have hk' : (w.redeem x).count? x = some (redeemed k) := by
        rw [count?_redeem, if_pos rfl, hk]
        rfl
      rw [List.filterMap_cons_some hk', List.filterMap_cons_some hk, hrest, redeemNext,
        if_pos hkroom]
    | false =>
      rw [List.find?_cons_of_neg (by simp [hroom])] at hfirst
      have hne : r ≠ x := fun heq => hx (heq ▸ List.mem_of_find?_eq_some hfirst)
      have hsame : (w.redeem r).count? x = w.count? x := by rw [count?_redeem, if_neg hne]
      cases hk : w.count? x with
      | none =>
        rw [List.filterMap_cons_none (hsame.trans hk), List.filterMap_cons_none hk,
          ih hnodup hfirst]
      | some k =>
        have hkroom : hasRoom k = false := by
          rw [roomAt_eq, hk] at hroom
          exact hroom
        rw [List.filterMap_cons_some (hsame.trans hk), List.filterMap_cons_some hk,
          ih hnodup hfirst, redeemNext, if_neg (by simp [hkroom])]

theorem Distinct.eq_of_pool? (h : w.Distinct) {id : Uuid} {pool pool' : Pool}
    (hpool : w.pool? id = some pool) (hmem : pool' ∈ w.pools) (hid : pool'.promotion.id = id) :
    pool' = pool := by
  obtain ⟨hin, hpoolid⟩ := mem_of_pool? hpool
  exact List.inj_on_of_nodup_map h hmem hin (hid.trans hpoolid.symm)

/-- Counting an activation in the first row of a promotion that has room is what the store does for
it. -/
theorem toStore_redeem (hlayout : w.Layout) (hdistinct : w.Distinct) {id : Uuid} {pool : Pool}
    {r : Nat} (hpool : w.pool? id = some pool) (hfirst : pool.rows.find? w.roomAt = some r) :
    (w.redeem r).toStore =
      w.toStore.modify id fun p => { p with codes := redeemNext p.codes } := by
  obtain ⟨hin, hid⟩ := mem_of_pool? hpool
  rw [toStore_eq, toStore_eq, pools_redeem]
  simp only [Store.modify, List.map_map, Store.mk.injEq]
  apply List.map_congr_left
  intro pool' hpool'
  simp only [Function.comp]
  by_cases hid' : pool'.promotion.id = id
  · obtain rfl := hdistinct.eq_of_pool? hpool hpool' hid'
    have hcodes := codes_redeem (hlayout.nodup pool' hin) hfirst
    have hpresent : (w.present pool').id = id := hid
    rw [if_pos hpresent, present, present, hcodes]
  · have hrow : r ∉ pool'.rows := by
      intro hr
      have hsame := hlayout.apart pool' hpool' pool hin r hr (List.mem_of_find?_eq_some hfirst)
      exact hid' (hsame.trans hid)
    have hcounts : pool'.rows.filterMap (w.redeem r).count? = pool'.rows.filterMap w.count? := by
      apply List.filterMap_congr
      intro x hx
      have hne : r ≠ x := fun heq => hrow (heq ▸ hx)
      rw [count?_redeem, if_neg hne]
    have hpresent : ¬ (w.present pool').id = id := hid'
    rw [if_neg hpresent, present, present, hcounts]

/-- The pages of a world are those of its store. -/
theorem listing_toStore (w : World) (filter : Filter) (page : Page) (key : SortKey) :
    (w.listing filter page key).map w.present = w.toStore.list filter page key := by
  have hsort : ∀ pools : List Pool,
      (pools.mergeSort fun a b => key.before a.promotion b.promotion).map w.present =
        (pools.map w.present).mergeSort key.before := by
    intro pools
    refine List.map_mergeSort fun a _ b _ => ?_
    cases key <;> rfl
  have hfilter : (w.pools.filter fun pool => filter.accepts pool.promotion).map w.present =
      (w.pools.map w.present).filter filter.accepts := by
    rw [List.filter_map]
    rfl
  simp only [listing, Store.list, Store.listing, toStore_eq, Page.cut, List.map_take,
    List.map_drop, hsort, hfilter]

end World

/-! ### The steps of one call in a row -/

namespace Stage

variable {α : Type} {caller : Nat} {s : Shared}

/-- A step that a call can take, whatever is decided for it. -/
def Moves (caller : Nat) (x y : Stage α × Shared) : Prop :=
  ∃ ch note, x.1.step ch caller x.2 = some (y.1, y.2, note)

/-- What becomes of a call, and of what it shares, by steps with nobody coming in between. -/
abbrev Alone (caller : Nat) : Stage α × Shared → Stage α × Shared → Prop :=
  Relation.ReflTransGen (Moves caller)

theorem moves_activating (refuses : Bool) {id : Uuid} {p p' : Phase} {w : World}
    {next : Except Failure String → Action α} (hp : p.result? = none)
    (hstep : p.step (fun _ _ g => (refuses, g)) caller id s.world () = some (p', w, ())) :
    Moves caller (.activating id p next, s) (.activating id p' next, { s with world := w }) := by
  refine ⟨{ refuses }, p.note? id p', ?_⟩
  simp only [step, hp, hstep, Option.map_some]

theorem moves_copying {c c' : Copy} {w : World} {next : List Promotion → Action α}
    (hc : c.result? = none) (hstep : c.step caller s.world = some (c', w)) :
    Moves caller (.copying c next, s) (.copying c' next, { s with world := w }) := by
  refine ⟨{}, none, ?_⟩
  simp only [step, hc, hstep, Option.map_some]

theorem moves_answered {id : Uuid} {next : Except Failure String → Action α}
    (a : Except Failure String) :
    Moves caller (.activating id (.finished a) next, s) (.asking (next a), s) :=
  ⟨{}, none, rfl⟩

/-! ### Copying alone -/

/-- The rows of a promotion are copied one after the other. -/
theorem alone_rows (hfree : s.world.Free) {done : List Promotion} {rest : List Pool}
    {next : List Promotion → Action α} (rows : List Nat) (p : Promotion) :
    Alone caller (.copying (.reading done (⟨p, rows⟩ :: rest)) next, s)
      (.copying (.reading (done ++ [{ p with
        codes := p.codes ++ rows.filterMap s.world.count? }]) rest) next, s) := by
  induction rows generalizing p with
  | nil =>
    refine .single ?_
    rw [List.filterMap_nil, List.append_nil]
    exact moves_copying rfl rfl
  | cons r rows ih =>
    have hheld : s.world.held r = false := hfree.held r
    have htake : Moves caller (.copying (.reading done (⟨p, r :: rows⟩ :: rest)) next, s)
        (.copying (.holding done p r rows rest) next,
          { s with world := s.world.hold r caller }) :=
      moves_copying rfl (by simp [Copy.step, hheld])
    have hread : Moves caller (.copying (.holding done p r rows rest) next,
          { s with world := s.world.hold r caller })
        (.copying (.reading done (⟨{ p with
          codes := p.codes ++ (s.world.count? r).toList }, rows⟩ :: rest)) next, s) := by
      refine ⟨{}, none, ?_⟩
      simp only [step, Copy.result?, Copy.step, Option.map_some, World.count?_hold,
        hfree.release_hold]
    have hcodes : p.codes ++ (r :: rows).filterMap s.world.count? =
        p.codes ++ (s.world.count? r).toList ++ rows.filterMap s.world.count? := by
      cases hk : s.world.count? r with
      | none => simp [List.filterMap_cons_none hk]
      | some k => simp [List.filterMap_cons_some hk]
    rw [hcodes]
    exact .head htake (.head hread (ih _))

/-- Promotions are copied as they are at present. -/
theorem alone_copying (hfree : s.world.Free) (next : List Promotion → Action α)
    (pools : List Pool) (done : List Promotion) :
    Alone caller (.copying (.reading done (pools.map Pool.blank)) next, s)
      (.asking (next (done ++ pools.map s.world.present)), s) := by
  induction pools generalizing done with
  | nil =>
    refine .single ⟨{}, none, ?_⟩
    simp [step, Copy.result?]
  | cons pool pools ih =>
    have hcopied := ih (done ++ [s.world.present pool])
    rw [List.append_assoc, List.singleton_append] at hcopied
    exact (alone_rows hfree pool.rows pool.blank.promotion).trans hcopied

/-! ### Activating alone -/

/-- Passing over rows ends with the first one that has room, or behind the last one. -/
theorem alone_probing (hfree : s.world.Free) (id : Uuid) (all : List Nat)
    (next : Except Failure String → Action α) (left : List Nat) :
    (∀ r, left.find? s.world.roomAt = some r →
      Alone caller (.activating id (.probing left all) next, s)
        (.activating id (.pausing r) next, { s with world := s.world.hold r caller })) ∧
    (left.find? s.world.roomAt = none →
      Alone caller (.activating id (.probing left all) next, s)
        (.activating id (.probing [] all) next, s)) := by
  induction left with
  | nil =>
    refine ⟨?_, fun _ => .refl⟩
    intro r hr
    cases hr
  | cons r left ih =>
    have hheld : s.world.held r = false := hfree.held r
    have htry : Moves caller (.activating id (.probing (r :: left) all) next, s)
        (.activating id (.probed r left all) next,
          { s with world := s.world.hold r caller }) :=
      moves_activating false rfl (by simp [Phase.step, hheld])
    have hroom : (s.world.hold r caller).roomAt r = s.world.roomAt r := by
      rw [World.roomAt_eq, World.roomAt_eq, World.count?_hold]
    cases hr : s.world.roomAt r with
    | true =>
      rw [List.find?_cons_of_pos hr]
      constructor
      · intro x hx
        obtain rfl := Option.some.inj hx
        refine .head htry (.single ⟨{}, none, ?_⟩)
        simp [step, Phase.result?, Phase.step, Phase.note?, hroom, hr]
      · intro hnone
        cases hnone
    | false =>
      have hpass : Moves caller (.activating id (.probed r left all) next,
            { s with world := s.world.hold r caller })
          (.activating id (.probing left all) next, s) := by
        refine ⟨{}, none, ?_⟩
        simp [step, Phase.result?, Phase.step, Phase.note?, hroom, hr, hfree.release_hold]
      rw [List.find?_cons_of_neg (by simp [hr])]
      exact ⟨fun x hx => .head htry (.head hpass (ih.1 x hx)),
        fun hnone => .head htry (.head hpass (ih.2 hnone))⟩

/-- Waiting for rows without room ends with the answer that there is none. -/
theorem alone_waiting (hfree : s.world.Free) {id : Uuid}
    {next : Except Failure String → Action α} {left : List Nat}
    (hnone : left.find? s.world.roomAt = none) :
    Alone caller (.activating id (.waiting left) next, s)
      (.activating id (.finished (.error .exhausted)) next, s) := by
  induction left with
  | nil => exact .single (moves_activating false rfl rfl)
  | cons r left ih =>
    have hr : s.world.roomAt r = false := by
      simpa using List.find?_eq_none.mp hnone r List.mem_cons_self
    rw [List.find?_cons_of_neg (by simp [hr])] at hnone
    have hheld : s.world.held r = false := hfree.held r
    have hroom : (s.world.hold r caller).roomAt r = false := by
      rw [World.roomAt_eq, World.count?_hold, ← World.roomAt_eq, hr]
    have htake : Moves caller (.activating id (.waiting (r :: left)) next, s)
        (.activating id (.obtained r left) next, { s with world := s.world.hold r caller }) :=
      moves_activating false rfl (by simp [Phase.step, hheld])
    have hpass : Moves caller (.activating id (.obtained r left) next,
          { s with world := s.world.hold r caller })
        (.activating id (.waiting left) next, s) := by
      refine ⟨{}, none, ?_⟩
      simp [step, Phase.result?, Phase.step, Phase.note?, hroom, hfree.release_hold]
    exact .head htake (.head hpass (ih hnone))

/-- What a caller that holds a row with room answers, by what the gate decides, and what it leaves
behind. -/
theorem alone_pausing (hfree : s.world.Free) {id : Uuid} {next : Except Failure String → Action α}
    (r : Nat) (refuses : Bool) :
    Alone caller (.activating id (.pausing r) next, { s with world := s.world.hold r caller })
      (.activating id (.finished
        (if refuses then .error .rejectedByGate else .ok (s.world.codeAt r))) next,
        { s with world := if refuses then s.world else s.world.redeem r }) := by
  have hcode : (s.world.hold r caller).codeAt r = s.world.codeAt r := by
    rw [World.codeAt_eq, World.codeAt_eq, World.count?_hold]
  refine .head (moves_activating false rfl rfl) ?_
  cases refuses with
  | true =>
    refine .head (moves_activating true rfl rfl) (.single ?_)
    refine ⟨{}, none, ?_⟩
    simp [step, Phase.result?, Phase.step, Phase.note?, hfree.release_hold]
  | false =>
    refine .head (moves_activating false rfl rfl) (.single ?_)
    refine ⟨{}, none, ?_⟩
    simp [step, Phase.result?, Phase.step, Phase.note?, hfree.release_redeem_hold, hcode]

end Stage

/-! ### Questions answered at once -/

/-- What calls share is what the environment has, and nothing is under way. -/
structure Shared.Mirrors (s : Shared) (e : Environment) : Prop where
  atRest : s.world.AtRest
  store : s.world.toStore = e.store
  cache : s.cache = e.cache
  refusesCodes : s.refusesCodes = e.refusesCodes

namespace Shared.Mirrors

open Stage

variable {α : Type} {caller : Nat} {s : Shared} {e : Environment}

theorem find? (h : s.Mirrors e) (id : Uuid) :
    e.store.find? id = (s.world.pool? id).map s.world.present := by
  rw [← h.store, World.find?_toStore]

/-- A question that is answered in the step in which it is asked. -/
theorem one_step (ch : Choice) {q : Ask} {next : q.Answer → Action α} {a : q.Answer}
    {e' : Environment} (hstage : (ask ch s q next).1 = .asking (next a))
    (hshared : (ask ch s q next).2.1.Mirrors e') :
    ∃ s', s'.Mirrors e' ∧
      Alone caller (.asking (.ask q next), s) (.asking (next a), s') := by
  refine ⟨_, hshared, .single ⟨ch, (ask ch s q next).2.2, ?_⟩⟩
  rw [step, ← hstage]

theorem create (h : s.Mirrors e) (id : Uuid) (now : Calendar.Instant) (draft : Draft)
    (codes : List NewCode) (next : Except Failure Unit → Action α) :
    ∃ s', s'.Mirrors (e.answerStore (.create id now draft codes)).2 ∧
      Alone caller (.asking (.ask (.store (.create id now draft codes)) next), s)
        (.asking (next (e.answerStore (.create id now draft codes)).1), s') := by
  have hcodes := h.refusesCodes
  cases hrefuses : e.refusesCodes with
  | true =>
    rw [hrefuses] at hcodes
    refine one_step {} ?_ ?_
    · simp only [ask, Environment.answerStore, hcodes, hrefuses, if_true]
    · simpa only [ask, Environment.answerStore, hcodes, hrefuses, if_true] using h
  | false =>
    rw [hrefuses] at hcodes
    refine one_step {} ?_ ?_
    · simp only [ask, Environment.answerStore, hcodes, hrefuses, Bool.false_eq_true, if_false]
    · simp only [ask, Environment.answerStore, hcodes, hrefuses, Bool.false_eq_true, if_false]
      refine ⟨h.atRest.insert _, ?_, h.cache, rfl⟩
      rw [World.toStore_insert h.atRest.layout, h.store]

theorem find (h : s.Mirrors e) (id : Uuid)
    (next : Except Failure (Option Promotion) → Action α) :
    ∃ s', s'.Mirrors (e.answerStore (.find id)).2 ∧
      Alone caller (.asking (.ask (.store (.find id)) next), s)
        (.asking (next (e.answerStore (.find id)).1), s') := by
  simp only [Environment.answerStore, h.find? id]
  cases hpool : s.world.pool? id with
  | none =>
    refine one_step {} ?_ ?_
    · simp only [ask, hpool, Option.map_none]
    · simpa only [ask, hpool] using h
  | some pool =>
    refine ⟨s, h, .head ⟨{}, none, ?_⟩
      (alone_copying h.atRest.free (fun ps => next (.ok ps.head?)) [pool] [])⟩
    simp only [step, ask, hpool, List.map_singleton]

theorem list (h : s.Mirrors e) (filter : Filter) (page : Page) (key : SortKey)
    (next : Except Failure (List Promotion) → Action α) :
    ∃ s', s'.Mirrors (e.answerStore (.list filter page key)).2 ∧
      Alone caller (.asking (.ask (.store (.list filter page key)) next), s)
        (.asking (next (e.answerStore (.list filter page key)).1), s') := by
  simp only [Environment.answerStore, ← h.store, ← World.listing_toStore]
  refine ⟨s, h, .head ⟨{}, none, ?_⟩
    (alone_copying h.atRest.free (fun ps => next (.ok ps)) (s.world.listing filter page key) [])⟩
  rfl

theorem update (h : s.Mirrors e) (id company : Uuid) (content : Content)
    (next : Except Failure Unit → Action α) :
    ∃ s', s'.Mirrors (e.answerStore (.update id company content)).2 ∧
      Alone caller (.asking (.ask (.store (.update id company content)) next), s)
        (.asking (next (e.answerStore (.update id company content)).1), s') := by
  have hupdate := World.update_toStore s.world id company content
  rw [h.store] at hupdate
  simp only [Environment.answerStore, ← hupdate]
  exact one_step {} rfl ⟨h.atRest.update id company content, rfl, h.cache, h.refusesCodes⟩

theorem delete (h : s.Mirrors e) (id company : Uuid) (next : Except Failure Unit → Action α) :
    ∃ s', s'.Mirrors (e.answerStore (.delete id company)).2 ∧
      Alone caller (.asking (.ask (.store (.delete id company)) next), s)
        (.asking (next (e.answerStore (.delete id company)).1), s') := by
  have hdelete := World.delete_toStore s.world id company
  rw [h.store] at hdelete
  simp only [Environment.answerStore, ← hdelete]
  exact one_step {} rfl ⟨h.atRest.delete id company, rfl, h.cache, h.refusesCodes⟩

/-- An activation that is alone ends as in the serial store. -/
theorem activate (h : s.Mirrors e) (id : Uuid) (next : Except Failure String → Action α) :
    ∃ s', s'.Mirrors (e.answerStore (.activate id)).2 ∧
      Alone caller (.asking (.ask (.store (.activate id)) next), s)
        (.asking (next (e.answerStore (.activate id)).1), s') := by
  have hfree := h.atRest.free
  have hask : Moves caller (.asking (.ask (.store (.activate id)) next), s)
      (.activating id .arriving next, s) := ⟨{}, none, rfl⟩
  simp only [Environment.answerStore, Store.activate, h.find? id]
  cases hpool : s.world.pool? id with
  | none =>
    refine ⟨s, h, .head hask (.head (moves_activating false rfl ?_) (.single (moves_answered _)))⟩
    simp only [Phase.step, World.rowsOf?_eq, hpool, Option.map_none]
  | some pool =>
    have hcapture : Moves caller (.activating id .arriving next, s)
        (.activating id (.probing pool.rows pool.rows) next, s) := by
      apply moves_activating false rfl
      simp only [Phase.step, World.rowsOf?_eq, hpool, Option.map_some]
    obtain ⟨hfound, hpassed⟩ := alone_probing hfree id pool.rows next pool.rows
    simp only [Option.map_some, World.nextCode?_present]
    cases hfirst : pool.rows.find? s.world.roomAt with
    | none =>
      have hagain : Moves caller (.activating id (.probing [] pool.rows) next, s)
          (.activating id (.waiting pool.rows) next, s) := moves_activating false rfl rfl
      have hwaited := (hpassed hfirst).trans (.head hagain (alone_waiting hfree hfirst))
      exact ⟨s, h, .head hask (.head hcapture (hwaited.tail (moves_answered _)))⟩
    | some r =>
      have hdecided (refuses : Bool) := (hfound r hfirst).trans (alone_pausing hfree r refuses)
      simp only [Option.map_some]
      cases hrefuses : (e.gate.decide id (s.world.codeAt r)).1 with
      | true =>
        have hrejected := (hdecided true).tail (moves_answered _)
        exact ⟨s, ⟨h.atRest, h.store, h.cache, h.refusesCodes⟩,
          .head hask (.head hcapture hrejected)⟩
      | false =>
        have hcounted := (hdecided false).tail (moves_answered _)
        refine ⟨{ s with world := s.world.redeem r },
          ⟨h.atRest.redeem r, ?_, h.cache, h.refusesCodes⟩, .head hask (.head hcapture hcounted)⟩
        rw [World.toStore_redeem h.atRest.layout h.atRest.distinct hpool hfirst, h.store]
        rfl

/-- A question of the cache is answered in the step in which it is asked. -/
theorem ask_cache (h : s.Mirrors e) (r : CacheRequest) (next : r.Answer → Action α) :
    ∃ s', s'.Mirrors (e.answerCache r).2 ∧
      Alone caller (.asking (.ask (.cache r) next), s)
        (.asking (next (e.answerCache r).1), s') := by
  have hanswer : Cache.answer r s.cache = Cache.answer r e.cache := by rw [h.cache]
  cases r with
  | find key | fill key value generation | invalidate key =>
    refine one_step {} ?_ ⟨h.atRest, h.store, ?_, h.refusesCodes⟩
    · simp only [ask, hanswer, Environment.answerCache]
    · simp only [ask, hanswer, Environment.answerCache]
  | generation key =>
    have hkept : (Cache.answer (.generation key) e.cache).2 = e.cache := by
      simp only [Cache.answer]
      split <;> rfl
    refine one_step {} ?_ ⟨h.atRest, h.store, ?_, h.refusesCodes⟩
    · simp only [ask, hanswer, Environment.answerCache]
    · simp only [ask, hanswer, Environment.answerCache, hkept]

/-- A question asked with nobody coming in between is answered as the environment answers it. -/
theorem answer (h : s.Mirrors e) (q : Ask) (next : q.Answer → Action α) :
    ∃ s', s'.Mirrors (e.answer q).2 ∧
      Alone caller (.asking (.ask q next), s) (.asking (next (e.answer q).1), s') := by
  cases q with
  | mint =>
    have hsame : s.Mirrors (e.answer .mint).2 := ⟨h.atRest, h.store, h.cache, h.refusesCodes⟩
    exact one_step { minted := e.supply.take.1 } rfl hsame
  | companyName company =>
    have hsame : s.Mirrors (e.answer (.companyName company)).2 :=
      ⟨h.atRest, h.store, h.cache, h.refusesCodes⟩
    exact one_step { name := e.directory.name company } rfl hsame
  | cache r => exact h.ask_cache r next
  | store r =>
    cases r with
    | create id now draft codes => exact h.create id now draft codes next
    | find id => exact h.find id next
    | list filter page key => exact h.list filter page key next
    | count filter =>
      refine one_step {} ?_ h
      simp only [ask, h.store]
      rfl
    | update id company content => exact h.update id company content next
    | delete id company => exact h.delete id company next
    | activate id => exact h.activate id next

/-- A dialogue that nobody comes in between ends as it does in the environment. -/
theorem perform (h : s.Mirrors e) (caller : Nat) (d : Action α) :
    ∃ s', s'.Mirrors (e.perform d).2 ∧
      Alone caller (.asking d, s) (.asking (.done (e.perform d).1), s') := by
  induction d generalizing s e with
  | done a => exact ⟨s, h, .refl⟩
  | ask q next ih =>
    obtain ⟨s', hs', hanswered⟩ := h.answer q next
    obtain ⟨s'', hs'', hrest⟩ := ih _ hs'
    exact ⟨s'', hs'', hanswered.trans hrest⟩

end Shared.Mirrors

end Promotions.Memory
