import Promotions.Proofs.Invariant
import Promotions.Proofs.Keys

/-!
Readers of a promotion, step by step: what each of them has copied so far, and under which
generation it is going to put the text into the cache. What a reader has copied is what the store
has, as long as nobody has changed the promotion since the reader began.
-/

namespace Promotions.Memory

/-! ### What a step leaves as it is -/

/-- A promotion is there with the same content, and its rows count what they counted. -/
def World.Keeps (id : Uuid) (w w' : World) : Prop :=
  ∀ pool, w.pool? id = some pool →
    w'.pool? id = some pool ∧ ∀ r ∈ pool.rows, w'.count? r = w.count? r

def Note.Writes (id : Uuid) : Note → Prop
  | changed x => x = id
  | counted x _ => x = id
  | _ => False

namespace World.Keeps

variable {id : Uuid} {w w' : World}

theorem of_count?_eq (hpools : w'.pools = w.pools) (hcount : ∀ r, w'.count? r = w.count? r) :
    w.Keeps id w' := by
  intro pool hpool
  refine ⟨?_, fun r _ => hcount r⟩
  rw [pool?, hpools]
  exact hpool

theorem present_eq (h : w.Keeps id w') {pool : Pool} (hpool : w.pool? id = some pool) :
    w'.present pool = w.present pool := by
  have hcodes : pool.rows.filterMap w'.count? = pool.rows.filterMap w.count? :=
    List.filterMap_congr fun r hr => (h pool hpool).2 r hr
  rw [present, present, hcodes]

/-- A promotion that stays as it is can be found as before. -/
theorem find?_toStore (h : w.Keeps id w') {p : Promotion} (hp : w.toStore.find? id = some p) :
    w'.toStore.find? id = some p := by
  rw [World.find?_toStore] at hp ⊢
  obtain ⟨pool, hpool, rfl⟩ := Option.map_eq_some_iff.mp hp
  rw [(h pool hpool).1, Option.map_some, h.present_eq hpool]

theorem rewrite {x : Uuid} (content : Content) (h : x ≠ id) : w.Keeps id (w.rewrite x content) :=
  fun pool hpool => ⟨by rw [pool?_rewrite_of_ne w content (Ne.symm h), hpool], fun _ _ => rfl⟩

theorem remove {x : Uuid} (h : x ≠ id) : w.Keeps id (w.remove x) :=
  fun pool hpool => ⟨by rw [pool?_remove, if_neg (Ne.symm h), hpool], fun _ _ => rfl⟩

theorem insert (hl : w.Layout) {p : Promotion} (h : p.id ≠ id) : w.Keeps id (w.insert p) := by
  intro pool hpool
  refine ⟨by rw [pool?_insert_of_ne w p (Ne.symm h), hpool], fun r hr => ?_⟩
  rw [count?_insert, if_pos (hl.inRange pool (mem_of_pool? hpool).1 r hr)]

/-- An activation of another promotion is counted in a row of its own. -/
theorem redeem {r : Nat} (h : ∀ pool ∈ w.pools, r ∈ pool.rows → pool.promotion.id ≠ id) :
    w.Keeps id (w.redeem r) := by
  intro pool hpool
  refine ⟨hpool, fun x hx => ?_⟩
  obtain ⟨hmem, hid⟩ := mem_of_pool? hpool
  rw [count?_redeem, if_neg]
  rintro rfl
  exact h pool hmem hx hid

end World.Keeps

/-- What is not noted as a write to a promotion leaves it as it is. -/
theorem Turn.keeps {α : Type} {caller : Nat} {w w' : World} {st st' : Stage α} {note : Option Note}
    {id : Uuid} (t : Turn caller w st st' note w') (hl : w.Layout)
    (hown : ∀ x r next, st = .activating x (.deciding r) next →
      ∀ pool ∈ w.pools, r ∈ pool.rows → pool.promotion.id = x)
    (hnote : ∀ n, note = some n → ¬ n.Writes id) : w.Keeps id w' := by
  cases t with
  | rest _ _ _ => exact .of_count?_eq rfl fun _ => rfl
  | take _ _ _ _ _ => exact .of_count?_eq rfl fun _ => World.count?_hold ..
  | drop _ _ _ => exact .of_count?_eq rfl fun _ => World.count?_release ..
  | count hbefore _ =>
    refine .redeem fun pool hpool hr hid => hnote _ rfl ?_
    exact (hown _ _ _ hbefore pool hpool hr).symm.trans hid
  | @insert p note _ hinsert _ _ _ =>
    by_cases hp : p.id = id
    · -- A new promotion under the identifier of one that is there is noted as a change.
      intro pool hpool
      rw [hp, hpool, Option.map_some] at hinsert
      exact absurd rfl (hnote _ hinsert)
    · exact .insert hl hp
  | rewrite _ _ _ => exact .rewrite _ (hnote _ rfl)
  | remove _ _ _ => exact .remove (hnote _ rfl)

/-- What a step does to the cache. -/
inductive CacheTurn {α : Type} (c : Cache) (st : Stage α) : Option Note → Cache → Prop
  | rest {note : Option Note} (hnote : ∀ key, note ≠ some (.staled key)) : CacheTurn c st note c
  | fill {key value : String} {next : Except Failure Bool → Action α}
      (hbefore : st = .asking (.ask (.cache (.fill key value (c.generation key))) next)) :
      CacheTurn c st none (c.put key value)
  | invalidate {key : String} :
      CacheTurn c st (some (.staled key)) ((c.nextGeneration key).drop key)

theorem Phase.note?_ne_staled (id : Uuid) (p p' : Phase) (key : String) :
    p.note? id p' ≠ some (.staled key) := by
  unfold note?
  split <;> exact fun h => by cases h

/-- A step leaves the cache as it is, fills in a text or declares one stale. -/
theorem CacheTurn.of_steps {α : Type} {ch : Choice} {caller : Nat} {s s' : Shared}
    {st st' : Stage α} {note : Option Note} (hs : Stage.Steps ch caller s st st' s' note) :
    CacheTurn s.cache st note s'.cache := by
  cases hs with
  | asked =>
    rename_i q next
    match q with
    | .cache (.find key) =>
      simp only [Stage.ask, Cache.answer]
      split <;> exact .rest fun _ h => by cases h
    | .cache (.generation key) =>
      simp only [Stage.ask, Cache.answer]
      split <;> exact .rest fun _ h => by cases h
    | .cache (.fill key value generation) =>
      simp only [Stage.ask, Cache.answer]
      split
      · exact .rest fun _ h => by cases h
      · split
        · rename_i hcurrent
          subst hcurrent
          exact .fill rfl
        · exact .rest fun _ h => by cases h
    | .cache (.invalidate key) =>
      simp only [Stage.ask, Cache.answer]
      split
      · exact .rest fun _ h => by cases h
      · exact .invalidate
    | .mint | .companyName _ | .store (.count _) | .store (.list _ _ _)
    | .store (.activate _) => exact .rest fun _ h => by cases h
    | .store (.create id _ _ _) =>
      simp only [Stage.ask]
      split
      · exact .rest fun _ h => by cases h
      · refine .rest fun key h => ?_
        obtain ⟨pool, -, h⟩ := Option.map_eq_some_iff.mp h
        cases h
    | .store (.find _) =>
      simp only [Stage.ask]
      split <;> exact .rest fun _ h => by cases h
    | .store (.update _ _ _) =>
      simp only [Stage.ask, World.update]
      split <;> exact .rest fun _ h => by cases h
    | .store (.delete _ _) =>
      simp only [Stage.ask, World.delete]
      split <;> exact .rest fun _ h => by cases h
  | activated _ | copied _ | copies _ => exact .rest fun _ h => by cases h
  | activates _ => exact .rest fun key => Phase.note?_ne_staled _ _ _ key

/-! ### What a reader has copied -/

inductive Copy.Follows (w : World) (id : Uuid) : Copy → Prop
  | reading {pool : Pool} {taken left : List Nat} {q : Promotion} (hpool : w.pool? id = some pool)
      (hrows : pool.rows = taken ++ left)
      (hq : q = { pool.promotion with codes := taken.filterMap w.count? }) :
      Follows w id (.reading [] [⟨q, left⟩])
  | holding {pool : Pool} {taken left : List Nat} {r : Nat} {q : Promotion}
      (hpool : w.pool? id = some pool) (hrows : pool.rows = taken ++ r :: left)
      (hq : q = { pool.promotion with codes := taken.filterMap w.count? }) :
      Follows w id (.holding [] q r left [])
  | copied {q : Promotion} (hfound : w.toStore.find? id = some q) : Follows w id (.reading [q] [])

namespace Copy.Follows

variable {w w' : World} {id : Uuid} {c c' : Copy}

theorem blank {pool : Pool} (h : w.pool? id = some pool) :
    (Copy.reading [] [pool.blank]).Follows w id :=
  .reading h (List.nil_append pool.rows).symm rfl

theorem find?_eq {ps : List Promotion} (h : (Copy.reading ps []).Follows w id) :
    w.toStore.find? id = ps.head? := by
  cases h with
  | copied hfound => exact hfound

theorem codes_eq (hw : w.Keeps id w') {pool : Pool} (hpool : w.pool? id = some pool)
    {taken left : List Nat} (hrows : pool.rows = taken ++ left) :
    taken.filterMap w'.count? = taken.filterMap w.count? := by
  refine List.filterMap_congr fun r hr => (hw pool hpool).2 r ?_
  rw [hrows]
  exact List.mem_append_left _ hr

/-- A copy follows the store as long as others leave its promotion as it is. -/
theorem mono (h : c.Follows w id) (hw : w.Keeps id w') : c.Follows w' id := by
  cases h with
  | reading hpool hrows hq =>
    refine .reading (hw _ hpool).1 hrows ?_
    rw [hq, codes_eq hw hpool hrows]
  | holding hpool hrows hq =>
    refine .holding (hw _ hpool).1 hrows ?_
    rw [hq, codes_eq hw hpool hrows]
  | copied hfound => exact .copied (hw.find?_toStore hfound)

/-- A reader that follows the store goes on to do so. -/
theorem of_steps {caller : Nat} (h : c.Follows w id) (hs : Copy.Steps caller w c c' w') :
    c'.Follows w id := by
  cases hs with
  | copied =>
    cases h with
    | reading hpool hrows hq =>
      rw [List.append_nil] at hrows
      refine .copied ?_
      rw [World.find?_toStore, hpool, Option.map_some, hq, World.present, hrows]
  | took _ =>
    cases h with
    | reading hpool hrows hq => exact .holding hpool hrows hq
  | @read done q r left rest =>
    cases h with
    | @holding pool taken _ _ _ hpool hrows hq =>
      have hmore : pool.rows = (taken ++ [r]) ++ left := by simp [hrows]
      refine .reading hpool hmore ?_
      subst hq
      simp only [List.filterMap_append]
      cases hr : w.count? r <;> simp [hr]

end Copy.Follows

/-! ### Where a reader is -/

/-- The places at which a reader can be, with the cache and the world as they are. If the generation
under which it is going to fill is still the present one, and no write is unsettled, it fills with
what the store has. -/
inductive Reading (c : Cache) (w : World) (settled : Prop) (id company : Uuid) :
    Stage (Except Failure Detail) → Prop
  | begun : Reading c w settled id company (.asking (Service.get id company))
  | missed : Reading c w settled id company
      (.asking (Service.loadStored id >>= Service.reply company))
  | dated {generation : Except Failure Nat}
      (hle : ∀ n, generation = .ok n → n ≤ c.generation (detailKey id)) :
      Reading c w settled id company (.asking (.ask (.store (.find id)) fun answer =>
        Service.keep id generation answer >>= Service.reply company))
  | copying {generation : Except Failure Nat} {copy : Copy}
      (hle : ∀ n, generation = .ok n → n ≤ c.generation (detailKey id))
      (hfollows : generation = .ok (c.generation (detailKey id)) → settled → copy.Follows w id) :
      Reading c w settled id company (.copying copy fun ps =>
        Service.keep id generation (.ok ps.head?) >>= Service.reply company)
  | filling {n : Nat} {p : Promotion} (hle : n ≤ c.generation (detailKey id))
      (hfound : n = c.generation (detailKey id) → settled → w.toStore.find? id = some p) :
      Reading c w settled id company (.asking (.ask (.cache (.fill (detailKey id) p.print n))
        fun _ => Service.reply company (.ok p)))
  | leaving {st : Stage (Except Failure Detail)}
      (hasks : st.Asks fun q => ∀ key value n, q ≠ .cache (.fill key value n)) :
      Reading c w settled id company st

namespace Reading

variable {c c' : Cache} {w w' : World} {settled settled' : Prop} {id company : Uuid}
  {st st' : Stage (Except Failure Detail)}

/-- Whatever else happens, a reader relies on the same, as long as generations are not begun anew
and a change of the promotion either ends the generation or is not settled. -/
theorem mono (h : Reading c w settled id company st)
    (hle : c.generation (detailKey id) ≤ c'.generation (detailKey id))
    (hkept : c'.generation (detailKey id) = c.generation (detailKey id) → settled' →
      settled ∧ w.Keeps id w') : Reading c' w' settled' id company st := by
  cases h with
  | begun => exact .begun
  | missed => exact .missed
  | dated hdated => exact .dated fun n hn => Nat.le_trans (hdated n hn) hle
  | copying hdated hfollows =>
    refine .copying (fun n hn => Nat.le_trans (hdated n hn) hle) fun hcurrent hs => ?_
    have hsame := Nat.le_antisymm (hdated _ hcurrent) hle
    obtain ⟨hsettled, hw⟩ := hkept hsame hs
    exact (hfollows (hsame ▸ hcurrent) hsettled).mono hw
  | @filling n p hdated hfound =>
    refine .filling (Nat.le_trans hdated hle) fun hcurrent hs => ?_
    have hsame := Nat.le_antisymm (hcurrent ▸ hdated) hle
    obtain ⟨hsettled, hw⟩ := hkept hsame hs
    exact hw.find?_toStore (hfound (hcurrent.trans hsame) hsettled)
  | leaving hasks => exact .leaving hasks

theorem leaving_reply (answer : Except Failure Promotion) :
    Reading c w settled id company (.asking (Service.reply company answer)) :=
  .leaving (Service.reply_asks (fun _ _ _ _ h => by cases h) company answer)

/-- A step takes a reader from one of these places to another one. -/
theorem of_step {ch : Choice} {caller : Nat} {s s' : Shared} {note : Option Note}
    (h : Reading s.cache s.world settled id company st)
    (hstep : st.step ch caller s = some (st', s', note)) :
    Reading s.cache s.world settled id company st' := by
  cases h with
  | begun =>
    have hst : st' = .asking (Service.proceed id
        (Cache.answer (.find (detailKey id)) s.cache).1 >>= Service.reply company) := by
      rw [Service.get_eq, Service.load_eq] at hstep
      exact (congrArg Prod.fst (Option.some.inj hstep)).symm
    rw [hst, Service.proceed]
    cases Service.cached (Cache.answer (.find (detailKey id)) s.cache).1 with
    | none => exact .missed
    | some p => exact leaving_reply (.ok p)
  | missed =>
    rw [Service.loadStored_eq] at hstep
    cases hstep
    exact .dated fun n hn => Nat.le_of_eq (Cache.eq_generation_of_answer s.cache (detailKey id) hn)
  | @dated generation hle =>
    simp only [Stage.step, Stage.ask] at hstep
    cases hpool : s.world.pool? id with
    | none =>
      rw [hpool] at hstep
      cases hstep
      exact leaving_reply (.error .promotionNotFound)
    | some pool =>
      rw [hpool] at hstep
      cases hstep
      exact .copying hle fun _ _ => .blank hpool
  | @copying generation copy hle hfollows =>
    cases Stage.steps_of_step hstep with
    | copied hresult =>
      rename_i ps
      obtain rfl := Copy.eq_reading_of_result? hresult
      change Reading s.cache s.world settled id company
        (.asking (Service.keep id generation (.ok ps.head?) >>= Service.reply company))
      cases hhead : ps.head? with
      | none => exact leaving_reply (.error .promotionNotFound)
      | some p =>
        cases generation with
        | error f => exact leaving_reply (.ok p)
        | ok n =>
          refine .filling (hle n rfl) fun hcurrent hsettled => ?_
          exact (hfollows (congrArg _ hcurrent) hsettled).find?_eq.trans hhead
    | copies hs =>
      exact .copying hle fun hcurrent hsettled => (hfollows hcurrent hsettled).of_steps hs
  | filling _ _ =>
    cases hstep
    exact leaving_reply (.ok _)
  | leaving hasks => exact .leaving (hasks.of_steps (Stage.steps_of_step hstep))

end Reading

end Promotions.Memory
