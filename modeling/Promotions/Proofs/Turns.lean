import Mathlib.Tactic.Tauto
import Promotions.Proofs.Concurrency

/-!
What a single step of a call can do: the steps of an activation and of a copy one by one, and what
any step does to the world. Later proofs never open the functions that take the steps.
-/

namespace Promotions.Memory

/-! ### Steps of an activation -/

inductive Phase.Steps (refuses : Bool) (caller : Nat) (id : Uuid) (w : World) :
    Phase → Phase → World → Prop
  | missing : w.pool? id = none →
      Steps refuses caller id w arriving (finished (.error .promotionNotFound)) w
  | captured {pool : Pool} : w.pool? id = some pool →
      Steps refuses caller id w arriving (probing pool.rows pool.rows) w
  | passed {r : Nat} {left all : List Nat} : w.held r = true →
      Steps refuses caller id w (probing (r :: left) all) (probing left all) w
  | tried {r : Nat} {left all : List Nat} : w.held r = false →
      Steps refuses caller id w (probing (r :: left) all) (probed r left all) (w.hold r caller)
  | probedRoom {r : Nat} {left all : List Nat} : w.roomAt r = true →
      Steps refuses caller id w (probed r left all) (pausing r) w
  | probedFull {r : Nat} {left all : List Nat} : w.roomAt r = false →
      Steps refuses caller id w (probed r left all) (probing left all) (w.release r)
  | again {all : List Nat} : Steps refuses caller id w (probing [] all) (waiting all) w
  | waited {r : Nat} {left : List Nat} : w.held r = false →
      Steps refuses caller id w (waiting (r :: left)) (obtained r left) (w.hold r caller)
  | obtainedRoom {r : Nat} {left : List Nat} : w.roomAt r = true →
      Steps refuses caller id w (obtained r left) (pausing r) w
  | obtainedFull {r : Nat} {left : List Nat} : w.roomAt r = false →
      Steps refuses caller id w (obtained r left) (waiting left) (w.release r)
  | exhausted : Steps refuses caller id w (waiting []) (finished (.error .exhausted)) w
  | paused {r : Nat} : Steps refuses caller id w (pausing r) (deciding r) w
  | rejected {r : Nat} : refuses = true →
      Steps refuses caller id w (deciding r) (releasing r (.error .rejectedByGate)) w
  | counted {r : Nat} : refuses = false →
      Steps refuses caller id w (deciding r) (releasing r (.ok (w.codeAt r))) (w.redeem r)
  | released {r : Nat} {a : Except Failure String} :
      Steps refuses caller id w (releasing r a) (finished a) (w.release r)

theorem Phase.eq_finished_of_result? {p : Phase} {a : Except Failure String}
    (h : p.result? = some a) : p = finished a := by
  cases p <;> cases h
  rfl

theorem Phase.steps_of_step {refuses : Bool} {caller : Nat} {id : Uuid} {w w' : World}
    {p p' : Phase} (h : p.step (fun _ _ g => (refuses, g)) caller id w () = some (p', w', ())) :
    Phase.Steps refuses caller id w p p' w' := by
  cases p with
  | arriving =>
    simp only [step, World.rowsOf?_eq] at h
    cases hpool : w.pool? id with
    | none =>
      simp only [hpool, Option.map_none, Option.some.injEq, Prod.mk.injEq, and_true] at h
      obtain ⟨rfl, rfl⟩ := h
      exact .missing hpool
    | some pool =>
      simp only [hpool, Option.map_some, Option.some.injEq, Prod.mk.injEq, and_true] at h
      obtain ⟨rfl, rfl⟩ := h
      exact .captured hpool
  | probing left all =>
    cases left with
    | nil =>
      simp only [step, Option.some.injEq, Prod.mk.injEq, and_true] at h
      obtain ⟨rfl, rfl⟩ := h
      exact .again
    | cons r left =>
      cases hheld : w.held r <;> simp [step, hheld] at h
      · obtain ⟨rfl, rfl⟩ := h
        exact .tried hheld
      · obtain ⟨rfl, rfl⟩ := h
        exact .passed hheld
  | probed r left all =>
    cases hroom : w.roomAt r <;> simp [step, hroom] at h
    · obtain ⟨rfl, rfl⟩ := h
      exact .probedFull hroom
    · obtain ⟨rfl, rfl⟩ := h
      exact .probedRoom hroom
  | waiting left =>
    cases left with
    | nil =>
      simp only [step, Option.some.injEq, Prod.mk.injEq, and_true] at h
      obtain ⟨rfl, rfl⟩ := h
      exact .exhausted
    | cons r left =>
      cases hheld : w.held r <;> simp [step, hheld] at h
      obtain ⟨rfl, rfl⟩ := h
      exact .waited hheld
  | obtained r left =>
    cases hroom : w.roomAt r <;> simp [step, hroom] at h
    · obtain ⟨rfl, rfl⟩ := h
      exact .obtainedFull hroom
    · obtain ⟨rfl, rfl⟩ := h
      exact .obtainedRoom hroom
  | pausing r =>
    simp only [step, Option.some.injEq, Prod.mk.injEq, and_true] at h
    obtain ⟨rfl, rfl⟩ := h
    exact .paused
  | deciding r =>
    cases refuses <;> simp [step] at h
    · obtain ⟨rfl, rfl⟩ := h
      exact .counted rfl
    · obtain ⟨rfl, rfl⟩ := h
      exact .rejected rfl
  | releasing r a =>
    simp only [step, Option.some.injEq, Prod.mk.injEq, and_true] at h
    obtain ⟨rfl, rfl⟩ := h
    exact .released
  | finished a => cases h

/-! ### Steps of a copy -/

inductive Copy.Steps (caller : Nat) (w : World) : Copy → Copy → World → Prop
  | copied {done : List Promotion} {p : Promotion} {rest : List Pool} :
      Steps caller w (reading done (⟨p, []⟩ :: rest)) (reading (done ++ [p]) rest) w
  | took {done : List Promotion} {p : Promotion} {r : Nat} {left : List Nat}
      {rest : List Pool} : w.held r = false →
      Steps caller w (reading done (⟨p, r :: left⟩ :: rest)) (holding done p r left rest)
        (w.hold r caller)
  | read {done : List Promotion} {p : Promotion} {r : Nat} {left : List Nat}
      {rest : List Pool} :
      Steps caller w (holding done p r left rest)
        (reading done (⟨{ p with codes := p.codes ++ (w.count? r).toList }, left⟩ :: rest))
        (w.release r)

theorem Copy.eq_reading_of_result? {c : Copy} {ps : List Promotion} (h : c.result? = some ps) :
    c = reading ps [] := by
  rcases c with ⟨done, _ | ⟨pool, rest⟩⟩ | _ <;> cases h
  rfl

theorem Copy.steps_of_step {caller : Nat} {w w' : World} {c c' : Copy}
    (h : c.step caller w = some (c', w')) : Copy.Steps caller w c c' w' := by
  cases c with
  | reading done todo =>
    rcases todo with _ | ⟨⟨p, _ | ⟨r, left⟩⟩, rest⟩
    · cases h
    · simp only [step, Option.some.injEq, Prod.mk.injEq] at h
      obtain ⟨rfl, rfl⟩ := h
      exact .copied
    · cases hheld : w.held r <;> simp [step, hheld] at h
      obtain ⟨rfl, rfl⟩ := h
      exact .took hheld
  | holding done p r left rest =>
    simp only [step, Option.some.injEq, Prod.mk.injEq] at h
    obtain ⟨rfl, rfl⟩ := h
    exact .read

/-! ### Steps of a call -/

def Phase.rows : Phase → List Nat
  | probing left all => left ++ all
  | probed r left all => r :: (left ++ all)
  | waiting left => left
  | obtained r left => r :: left
  | pausing r | deciding r | releasing r _ => [r]
  | _ => []

def Copy.rows : Copy → List Nat
  | reading _ todo => todo.flatMap (·.rows)
  | holding _ _ r left rest => r :: (left ++ rest.flatMap (·.rows))

def Phase.ready? : Phase → Option Nat
  | pausing r | deciding r => some r
  | _ => none

namespace Stage

variable {α : Type}

def rows : Stage α → List Nat
  | activating _ p _ => p.rows
  | copying c _ => c.rows
  | _ => []

def ready? : Stage α → Option Nat
  | activating _ p _ => p.ready?
  | _ => none

/-- Every question that a call can still come to has a property. -/
def Asks (P : Ask → Prop) : Stage α → Prop
  | asking d => d.Asks P
  | activating _ _ next => ∀ a, (next a).Asks P
  | copying _ next => ∀ ps, (next ps).Asks P
  | abandoned => True

inductive Steps (ch : Choice) (caller : Nat) (s : Shared) :
    Stage α → Stage α → Shared → Option Note → Prop
  | asked {q : Ask} {next : q.Answer → Action α} :
      Steps ch caller s (asking (.ask q next)) (ask ch s q next).1 (ask ch s q next).2.1
        (ask ch s q next).2.2
  | activated {id : Uuid} {p : Phase} {next : Except Failure String → Action α}
      {a : Except Failure String} : p.result? = some a →
      Steps ch caller s (activating id p next) (asking (next a)) s none
  | activates {id : Uuid} {p p' : Phase} {next : Except Failure String → Action α} {w : World} :
      Phase.Steps ch.refuses caller id s.world p p' w →
      Steps ch caller s (activating id p next) (activating id p' next) { s with world := w }
        (p.note? id p')
  | copied {c : Copy} {next : List Promotion → Action α} {ps : List Promotion} :
      c.result? = some ps → Steps ch caller s (copying c next) (asking (next ps)) s none
  | copies {c c' : Copy} {next : List Promotion → Action α} {w : World} :
      Copy.Steps caller s.world c c' w →
      Steps ch caller s (copying c next) (copying c' next) { s with world := w } none

variable {ch : Choice} {caller : Nat} {s s' : Shared} {st st' : Stage α} {note : Option Note}

/-- Every step of a call is one of these. -/
theorem steps_of_step (h : st.step ch caller s = some (st', s', note)) :
    Steps ch caller s st st' s' note := by
  cases st with
  | asking d =>
    cases d with
    | done a => cases h
    | ask q next =>
      have hs : Steps ch caller s (asking (.ask q next)) (ask ch s q next).1
        (ask ch s q next).2.1 (ask ch s q next).2.2 := .asked
      rwa [Option.some.inj h] at hs
  | activating id p next =>
    simp only [step] at h
    cases hresult : p.result? with
    | some a =>
      rw [hresult] at h
      cases h
      exact .activated hresult
    | none =>
      rw [hresult] at h
      obtain ⟨⟨p', w, u⟩, hp, h⟩ := Option.map_eq_some_iff.mp h
      cases h
      exact .activates (Phase.steps_of_step hp)
  | copying c next =>
    simp only [step] at h
    cases hresult : c.result? with
    | some ps =>
      rw [hresult] at h
      cases h
      exact .copied hresult
    | none =>
      rw [hresult] at h
      obtain ⟨⟨c', w⟩, hc, h⟩ := Option.map_eq_some_iff.mp h
      cases h
      exact .copies (Copy.steps_of_step hc)
  | abandoned => cases h

/-- A call that asks nothing but what it may goes on so. -/
theorem Asks.of_steps {P : Ask → Prop} (h : st.Asks P) (hs : Steps ch caller s st st' s' note) :
    st'.Asks P := by
  cases hs with
  | asked =>
    rename_i q next
    have hnext : ∀ r, (next r).Asks P := h.2
    match q with
    | .mint | .companyName _ | .cache _ | .store (.count _) | .store (.update _ _ _)
    | .store (.delete _ _) => exact hnext _
    | .store (.create _ _ _ _) =>
      simp only [ask]
      split <;> exact hnext _
    | .store (.find id) =>
      simp only [ask]
      split
      · exact hnext _
      · exact fun ps => hnext _
    | .store (.list _ _ _) => exact fun ps => hnext _
    | .store (.activate _) => exact hnext
  | activated _ => exact h _
  | activates _ => exact h
  | copied _ => exact h _
  | copies _ => exact h

end Stage

/-- The rows that an activation deals with after a step it dealt with before, save for those that it
has just found. -/
theorem Phase.rows_of_steps {refuses : Bool} {caller : Nat} {id : Uuid} {w w' : World}
    {p p' : Phase} (hs : Phase.Steps refuses caller id w p p' w') :
    (∀ r ∈ p'.rows, r ∈ p.rows) ∨
      ∃ pool, w.pool? id = some pool ∧ p = arriving ∧ p' = probing pool.rows pool.rows := by
  cases hs with
  | captured hpool => exact Or.inr ⟨_, hpool, rfl, rfl⟩
  | missing _ | again | exhausted | paused | rejected _ | counted _ | released =>
    exact Or.inl fun r hr => by simp_all [rows]
  | passed _ | tried _ | probedRoom _ | probedFull _ | waited _ | obtainedRoom _
  | obtainedFull _ =>
    refine Or.inl fun r hr => ?_
    simp only [rows, List.mem_cons, List.mem_append, List.not_mem_nil, or_false] at hr ⊢
    tauto

/-- The rows that a copy deals with after a step it dealt with before. -/
theorem Copy.rows_of_steps {caller : Nat} {w w' : World} {c c' : Copy}
    (hs : Copy.Steps caller w c c' w') : ∀ r ∈ c'.rows, r ∈ c.rows := by
  intro r hr
  cases hs with
  | copied => simpa [rows] using hr
  | took _ => simpa [rows] using hr
  | read => exact List.mem_cons_of_mem _ (by simpa [rows] using hr)

theorem World.mem_pools_of_mem_listing {w : World} {filter : Filter} {page : Page} {key : SortKey}
    {pool : Pool} (h : pool ∈ w.listing filter page key) :
    pool ∈ w.pools ∧ filter.accepts pool.promotion = true := by
  have hsorted := List.mem_of_mem_drop (List.mem_of_mem_take h)
  exact List.mem_filter.mp (List.mem_mergeSort.mp hsorted)

/-- The rows that a call deals with after a step it dealt with before, or they are those of
promotions that it has just found. -/
theorem Stage.rows_of_steps {α : Type} {ch : Choice} {caller : Nat} {s s' : Shared}
    {st st' : Stage α} {note : Option Note} (hs : Stage.Steps ch caller s st st' s' note) :
    ∀ r ∈ st'.rows, r ∈ st.rows ∨ ∃ pool ∈ s.world.pools, r ∈ pool.rows := by
  intro r hr
  cases hs with
  | asked =>
    rename_i q next
    match q with
    | .mint | .companyName _ | .cache _ | .store (.count _) | .store (.update _ _ _)
    | .store (.delete _ _) | .store (.activate _) => cases hr
    | .store (.create _ _ _ _) =>
      simp only [ask] at hr
      split at hr <;> cases hr
    | .store (.find id) =>
      simp only [ask] at hr
      split at hr
      · cases hr
      · rename_i pool hpool
        refine Or.inr ⟨pool, (World.mem_of_pool? hpool).1, ?_⟩
        simpa [rows, Copy.rows, Pool.blank] using hr
    | .store (.list filter page key) =>
      simp only [ask, rows, Copy.rows, List.flatMap_map, List.mem_flatMap] at hr
      obtain ⟨pool, hpool, hr⟩ := hr
      exact Or.inr ⟨pool, (World.mem_pools_of_mem_listing hpool).1, hr⟩
  | activated _ => cases hr
  | activates hp =>
    rcases Phase.rows_of_steps hp with hsame | ⟨pool, hpool, rfl, rfl⟩
    · exact Or.inl (hsame r hr)
    · refine Or.inr ⟨pool, (World.mem_of_pool? hpool).1, ?_⟩
      simpa [rows, Phase.rows] using hr
  | copied _ => cases hr
  | copies hc => exact Or.inl (Copy.rows_of_steps hc r hr)

/-! ### What a step does to the world -/

/-- What a step of a caller does to the world, with what the caller holds before and after. -/
inductive Turn {α : Type} (caller : Nat) (w : World) (st st' : Stage α) :
    Option Note → World → Prop
  | rest {note : Option Note} (hnote : ∀ id r, note ≠ some (.counted id r))
      (hheld : st'.held? = st.held?)
      (hready : ∀ r, st'.ready? = some r →
        st.ready? = some r ∨ st.held? = some r ∧ w.roomAt r = true) :
      Turn caller w st st' note w
  | take {r : Nat} (hr : r ∈ st.rows) (hfree : w.held r = false) (hbefore : st.held? = none)
      (hheld : st'.held? = some r) (hready : st'.ready? = none) :
      Turn caller w st st' none (w.hold r caller)
  | drop {r : Nat} (hbefore : st.held? = some r) (hheld : st'.held? = none)
      (hready : st'.ready? = none) : Turn caller w st st' none (w.release r)
  | count {id : Uuid} {r : Nat} {next : Except Failure String → Action α}
      (hbefore : st = .activating id (.deciding r) next)
      (hafter : st' = .activating id (.releasing r (.ok (w.codeAt r))) next) :
      Turn caller w st st' (some (.counted id r)) (w.redeem r)
  | insert {p : Promotion} {note : Option Note}
      (hcodes : ∀ c ∈ p.codes, c.activations.toInt = 0 ∧ 0 ≤ c.maxCount.toInt)
      (hnote : note = (w.pool? p.id).map fun _ => .changed p.id)
      (hbefore : st.held? = none) (hheld : st'.held? = none) (hready : st'.ready? = none) :
      Turn caller w st st' note (w.insert p)
  | rewrite {id : Uuid} {content : Content} (hbefore : st.held? = none)
      (hheld : st'.held? = none) (hready : st'.ready? = none) :
      Turn caller w st st' (some (.changed id)) (w.rewrite id content)
  | remove {id : Uuid} (hbefore : st.held? = none) (hheld : st'.held? = none)
      (hready : st'.ready? = none) :
      Turn caller w st st' (some (.changed id)) (w.remove id)

namespace Turn

variable {α : Type} {ch : Choice} {caller : Nat} {s s' : Shared} {st st' : Stage α}
  {note : Option Note}

/-- A step that neither touches the world nor holds a row before or after it. -/
theorem idle {w : World} (hnote : ∀ id r, note ≠ some (.counted id r)) (hbefore : st.held? = none)
    (hheld : st'.held? = none) (hready : st'.ready? = none) : Turn caller w st st' note w :=
  .rest hnote (hheld.trans hbefore.symm) fun r h => by simp [hready] at h

theorem staled?_ne_counted (r : CacheRequest) (a : r.Answer) (id : Uuid) (row : Nat) :
    staled? r a ≠ some (.counted id row) := by
  cases r with
  | invalidate key => cases a <;> simp [staled?]
  | find key | generation key | fill key value generation => simp [staled?]

theorem of_phase {id : Uuid} {p p' : Phase} {w w' : World}
    {next : Except Failure String → Action α} (h : Phase.Steps ch.refuses caller id w p p' w') :
    Turn caller w (.activating id p next) (.activating id p' next) (p.note? id p') w' := by
  cases h with
  | missing _ => exact .idle (fun _ _ h => by cases h) rfl rfl rfl
  | captured _ => exact .idle (fun _ _ h => by cases h) rfl rfl rfl
  | passed _ => exact .idle (fun _ _ h => by cases h) rfl rfl rfl
  | tried hfree => exact .take (by simp [Stage.rows, Phase.rows]) hfree rfl rfl rfl
  | probedRoom hroom =>
    refine .rest (fun _ _ h => by cases h) rfl fun x hx => Or.inr ?_
    cases hx
    exact ⟨rfl, hroom⟩
  | probedFull _ => exact .drop rfl rfl rfl
  | again => exact .idle (fun _ _ h => by cases h) rfl rfl rfl
  | waited hfree => exact .take (by simp [Stage.rows, Phase.rows]) hfree rfl rfl rfl
  | obtainedRoom hroom =>
    refine .rest (fun _ _ h => by cases h) rfl fun x hx => Or.inr ?_
    cases hx
    exact ⟨rfl, hroom⟩
  | obtainedFull _ => exact .drop rfl rfl rfl
  | exhausted => exact .idle (fun _ _ h => by cases h) rfl rfl rfl
  | paused => exact .rest (fun _ _ h => by cases h) rfl fun x hx => Or.inl hx
  | rejected _ => exact .rest (fun _ _ h => by cases h) rfl fun x hx => by cases hx
  | counted _ => exact .count rfl rfl
  | released => exact .drop rfl rfl rfl

theorem of_copy {c c' : Copy} {w w' : World} {next : List Promotion → Action α}
    (h : Copy.Steps caller w c c' w') :
    Turn caller w (.copying c next) (.copying c' next) none w' := by
  cases h with
  | copied => exact .idle (fun _ _ h => by cases h) rfl rfl rfl
  | took hfree => exact .take (by simp [Stage.rows, Copy.rows]) hfree rfl rfl rfl
  | read => exact .drop rfl rfl rfl

/-- Every step of a call that asks only what it may is one of these. -/
theorem of_steps {o : Operation} (hasks : st.Asks o.MayAsk)
    (hs : Stage.Steps ch caller s st st' s' note) :
    Turn caller s.world st st' note s'.world := by
  cases hs with
  | asked =>
    rename_i q next
    match q with
    | .mint | .companyName _ | .store (.count _) | .store (.list _ _ _)
    | .store (.activate _) => exact .idle (fun _ _ h => by cases h) rfl rfl rfl
    | .cache r => exact .idle (staled?_ne_counted r _) rfl rfl rfl
    | .store (.create id now draft codes) =>
      simp only [Stage.ask]
      split
      · exact .idle (fun _ _ h => by cases h) rfl rfl rfl
      · refine .insert ?_ rfl rfl rfl rfl
        intro c hc
        obtain ⟨new, hnew, rfl⟩ := List.mem_map.mp hc
        exact ⟨rfl, hasks.1.2 new hnew⟩
    | .store (.find id) =>
      simp only [Stage.ask]
      split <;> exact .idle (fun _ _ h => by cases h) rfl rfl rfl
    | .store (.update id company content) =>
      simp only [Stage.ask, World.update]
      split
      · exact .idle (fun _ _ h => by cases h) rfl rfl rfl
      · exact .rewrite rfl rfl rfl
    | .store (.delete id company) =>
      simp only [Stage.ask, World.delete]
      split
      · exact .idle (fun _ _ h => by cases h) rfl rfl rfl
      · exact .remove rfl rfl rfl
  | activated hresult =>
    obtain rfl := Phase.eq_finished_of_result? hresult
    exact .idle (fun _ _ h => by cases h) rfl rfl rfl
  | activates h => exact of_phase h
  | copied hresult =>
    obtain rfl := Copy.eq_reading_of_result? hresult
    exact .idle (fun _ _ h => by cases h) rfl rfl rfl
  | copies h => exact of_copy h

end Turn

theorem Phase.pools_of_steps {refuses : Bool} {caller : Nat} {id : Uuid} {w w' : World}
    {p p' : Phase} (hs : Phase.Steps refuses caller id w p p' w') : w'.pools = w.pools := by
  cases hs <;> rfl

theorem Copy.pools_of_steps {caller : Nat} {w w' : World} {c c' : Copy}
    (hs : Copy.Steps caller w c c' w') : w'.pools = w.pools := by
  cases hs <;> rfl

/-- What a step of a call does to the promotions, when the questions that it can ask have a
property: it leaves them as they are, or it counts an activation, or it creates, rewrites or removes
one of them as it was asked to. -/
inductive Effect {α : Type} (P : Ask → Prop) (w : World) (st : Stage α) : World → Prop
  | kept {w' : World} (hpools : w'.pools = w.pools) (hcounts : ∀ r, w'.count? r = w.count? r) :
      Effect P w st w'
  | counted {id : Uuid} {r : Nat} {next : Except Failure String → Action α}
      (hbefore : st = .activating id (.deciding r) next) : Effect P w st (w.redeem r)
  | created {id : Uuid} {now : Calendar.Instant} {draft : Draft} {codes : List NewCode}
      (hasked : P (.store (.create id now draft codes))) :
      Effect P w st (w.insert (draft.promotion id now codes))
  | rewritten {id company : Uuid} {content : Content}
      (hasked : P (.store (.update id company content)))
      (howned : w.toStore.owned id company = .ok ()) : Effect P w st (w.rewrite id content)
  | removed {id company : Uuid} (hasked : P (.store (.delete id company)))
      (howned : w.toStore.owned id company = .ok ()) : Effect P w st (w.remove id)

namespace Effect

variable {α : Type} {P : Ask → Prop}

theorem of_phase {refuses : Bool} {caller : Nat} {id : Uuid} {w w' : World} {p p' : Phase}
    {next : Except Failure String → Action α} (hs : Phase.Steps refuses caller id w p p' w') :
    Effect P w (.activating id p next) w' := by
  cases hs with
  | tried _ | waited _ => exact .kept rfl fun _ => World.count?_hold ..
  | probedFull _ | obtainedFull _ | released => exact .kept rfl fun _ => World.count?_release ..
  | counted _ => exact .counted rfl
  | missing _ | captured _ | passed _ | probedRoom _ | again | obtainedRoom _ | exhausted | paused
  | rejected _ => exact .kept rfl fun _ => rfl

theorem of_copy {caller : Nat} {w w' : World} {c c' : Copy} {st : Stage α}
    (hs : Copy.Steps caller w c c' w') : Effect P w st w' := by
  cases hs with
  | copied => exact .kept rfl fun _ => rfl
  | took _ => exact .kept rfl fun _ => World.count?_hold ..
  | read => exact .kept rfl fun _ => World.count?_release ..

/-- Every step of a call has one of these effects. -/
theorem of_steps {ch : Choice} {caller : Nat} {s s' : Shared} {st st' : Stage α}
    {note : Option Note} (hasks : st.Asks P) (hs : Stage.Steps ch caller s st st' s' note) :
    Effect P s.world st s'.world := by
  have hsame : Effect P s.world st s.world := .kept rfl fun _ => rfl
  cases hs with
  | asked =>
    rename_i q next
    match q with
    | .mint | .companyName _ | .cache _ | .store (.count _) | .store (.list _ _ _)
    | .store (.activate _) => exact hsame
    | .store (.create _ _ _ _) =>
      simp only [Stage.ask]
      split
      · exact hsame
      · exact .created hasks.1
    | .store (.find _) =>
      simp only [Stage.ask]
      split <;> exact hsame
    | .store (.update id company content) =>
      simp only [Stage.ask, World.update]
      cases howned : s.world.toStore.owned id company with
      | error f => exact hsame
      | ok u => exact .rewritten hasks.1 howned
    | .store (.delete id company) =>
      simp only [Stage.ask, World.delete]
      cases howned : s.world.toStore.owned id company with
      | error f => exact hsame
      | ok u => exact .removed hasks.1 howned
  | activated _ | copied _ => exact hsame
  | activates hp => exact of_phase hp
  | copies hc => exact of_copy hc

end Effect

/-! ### What happens in a move -/

namespace System

/-- What can happen in a move. -/
inductive Happens (s : System) : Move → System → Prop
  | begin (o : Operation) : Happens s (.begin o) { s with calls := s.calls ++ [.begin o] }
  | advance {caller : Nat} {ch : Choice} {c : Call} {stage : Stage c.operation.Result}
      {shared : Shared} {note : Option Note} (hc : s.calls[caller]? = some c)
      (hstep : c.stage.step ch caller s.shared = some (stage, shared, note)) :
      Happens s (.advance caller ch)
        ⟨shared, s.calls.set caller (c.advance stage note), note.toList ++ s.history⟩
  | abandon {caller : Nat} {c : Call} (hc : s.calls[caller]? = some c)
      (hunfinished : c.stage.unfinished = true) :
      Happens s (.abandon caller) { s with
        shared.world := letGo s.shared.world c.stage.held?
        calls := s.calls.set caller c.abandon }
  | failCache (failing : Bool) :
      Happens s (.failCache failing) { s with shared.cache.failing := failing }
  | failCodes (failing : Bool) :
      Happens s (.failCodes failing) { s with shared.refusesCodes := failing }

/-- Every move is one of these. -/
theorem happens_of_next {s s' : System} {m : Move} (h : s.next m = some s') : s.Happens m s' := by
  cases m with
  | begin o =>
    obtain rfl := Option.some.inj h
    exact .begin o
  | advance caller ch =>
    obtain ⟨c, hc, h⟩ := Option.bind_eq_some_iff.mp h
    obtain ⟨⟨stage, shared, note⟩, hstep, h⟩ := Option.bind_eq_some_iff.mp h
    obtain rfl := Option.some.inj h
    exact .advance hc hstep
  | abandon caller =>
    obtain ⟨c, hc, h⟩ := Option.bind_eq_some_iff.mp h
    cases hunfinished : c.stage.unfinished with
    | false => simp [hunfinished] at h
    | true =>
      simp only [hunfinished, if_true] at h
      obtain rfl := Option.some.inj h
      exact .abandon hc hunfinished
  | failCache failing =>
    obtain rfl := Option.some.inj h
    exact .failCache failing
  | failCodes failing =>
    obtain rfl := Option.some.inj h
    exact .failCodes failing

/-- What holds at first and is kept in every move of a schedule holds after it. -/
theorem run_induction {P : System → Prop} {ms : List Move} {s s' : System}
    (hrun : s.run ms = some s') (hs : P s)
    (hnext : ∀ t m t', m ∈ ms → P t → t.next m = some t' → P t') : P s' := by
  induction ms generalizing s with
  | nil =>
    obtain rfl := Option.some.inj hrun
    exact hs
  | cons m ms ih =>
    obtain ⟨t, ht, hrun⟩ := Option.bind_eq_some_iff.mp hrun
    exact ih hrun (hnext s m t List.mem_cons_self hs ht)
      fun t m t' hm => hnext t m t' (List.mem_cons_of_mem _ hm)

end System

end Promotions.Memory
