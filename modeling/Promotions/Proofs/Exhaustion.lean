import Promotions.Proofs.Redemption

/-!
An activation that ends for want of room tells the truth: it has come to every row of its promotion
when the row was full, and a full row stays full. So calls that nobody refuses use up all that is
left before one of them ends like that. And no call waits for good, since who holds a row waits for
no other one.
-/

namespace Promotions

def Operation.spares (p : Uuid) : Operation → Bool
  | create _ _ => false
  | delete id _ => id ≠ p
  | _ => true

namespace Memory

/-! ### Who can take a step -/

namespace Stage

variable {α : Type} {st : Stage α}

/-- A call that holds a row can take its next step. -/
theorem isSome_step_of_held? {r : Nat} (h : st.held? = some r) (ch : Choice) (caller : Nat)
    (s : Shared) : (st.step ch caller s).isSome := by
  cases st with
  | asking d | abandoned => cases h
  | activating id p next =>
    cases p with
    | arriving | probing left all | waiting left | finished a => cases h
    | probed x left all | obtained x left =>
      simp only [step, Phase.result?, Phase.step]
      cases s.world.roomAt x <;> rfl
    | pausing x | releasing x a => rfl
    | deciding x =>
      simp only [step, Phase.result?, Phase.step]
      cases ch.refuses <;> rfl
  | copying c next =>
    cases c with
    | reading done todo => cases h
    | holding done p x left rest => rfl

/-- A call on its way can take its next step, or it waits for a row that somebody holds. -/
theorem isSome_step_or_held (h : st.unfinished = true) (caller : Nat) (s : Shared) :
    (∀ ch, (st.step ch caller s).isSome) ∨ ∃ r, s.world.held r = true := by
  by_cases hheld : ∃ r, s.world.held r = true
  · exact Or.inr hheld
  · have hfree : ∀ r, s.world.held r = false := by simpa using hheld
    refine Or.inl fun ch => ?_
    cases st with
    | asking d =>
      cases d with
      | done a => cases h
      | ask q next => rfl
    | abandoned => cases h
    | activating id p next =>
      cases p with
      | arriving =>
        simp only [step, Phase.result?, Phase.step]
        cases s.world.rowsOf? id <;> rfl
      | probing left all =>
        cases left with
        | nil => rfl
        | cons x left => simp [step, Phase.result?, Phase.step, hfree x]
      | waiting left =>
        cases left with
        | nil => rfl
        | cons x left => simp [step, Phase.result?, Phase.step, hfree x]
      | probed x left all | obtained x left | pausing x | deciding x | releasing x a =>
        exact isSome_step_of_held? rfl ch caller s
      | finished a => rfl
    | copying c next =>
      cases c with
      | reading done todo =>
        rcases todo with _ | ⟨⟨p, _ | ⟨x, left⟩⟩, rest⟩
        · rfl
        · rfl
        · simp [step, Copy.result?, Copy.step, hfree x]
      | holding done p x left rest => exact isSome_step_of_held? rfl ch caller s

end Stage

namespace System

variable {g : Nat → Int} {s s' : System}

/-- A move is possible for every call that can take a step. -/
theorem isSome_next_advance {caller : Nat} {c : Call} {ch : Choice}
    (hc : s.calls[caller]? = some c) (h : (c.stage.step ch caller s.shared).isSome) :
    (s.next (.advance caller ch)).isSome := by
  obtain ⟨after, hafter⟩ := Option.isSome_iff_exists.mp h
  simp [next, hc, hafter]

/-- As long as a call is on its way, some call can take its next step. -/
theorem Sound.exists_step (h : s.Sound g) {c : Call} (hc : c ∈ s.calls)
    (hunfinished : c.stage.unfinished = true) :
    ∃ caller, ∀ ch, (s.next (.advance caller ch)).isSome := by
  obtain ⟨i, hi⟩ := List.mem_iff_getElem?.mp hc
  rcases Stage.isSome_step_or_held hunfinished i s.shared with hstep | ⟨r, hr⟩
  · exact ⟨i, fun ch => isSome_next_advance hi (hstep ch)⟩
  · -- The row that the call waits for is held by a call that waits for none.
    rw [World.held_eq] at hr
    obtain ⟨j, hj⟩ := Option.isSome_iff_exists.mp hr
    obtain ⟨d, hd, hdr⟩ := Option.bind_eq_some_iff.mp ((h.heldBy r j).mp hj)
    exact ⟨j, fun ch => isSome_next_advance hd (Stage.isSome_step_of_held? hdr ch j s.shared)⟩

end System

/-! ### Rows that are full -/

/-- An activation that ended, or is about to, because it found no room. -/
def Call.Exhausted (c : Call) : Prop :=
  c.answer? = some (.error .exhausted) ∨
    ∃ id next, c.stage = .activating id (.finished (.error .exhausted)) next

/-- A row without room counts as many activations as it may. -/
theorem World.Bounded.full {w : World} (h : w.Bounded) {r : Nat} (hr : r < w.rows.length)
    (hfull : w.roomAt r = false) :
    ∃ k, w.count? r = some k ∧ k.activations = k.maxCount := by
  obtain ⟨k, hk⟩ := exists_count?_of_lt hr
  have hbound := (h r k hk).2
  simp only [roomAt_eq, hk, Option.any_some, hasRoom, decide_eq_false_iff_not,
    Int64.lt_iff_toInt_lt] at hfull
  exact ⟨k, hk, Int64.toInt.inj (by omega)⟩

/-- All rows that an exhausted activation goes along are full. -/
theorem Call.Placed.full_of_exhausted {w : World} {c : Call} (h : c.Placed w)
    (hexhausted : c.Exhausted) : ∀ r ∈ c.captured, w.roomAt r = false := by
  obtain ⟨o, stage, captured, counted⟩ := c
  rcases hexhausted with hanswer | ⟨id, next, hstage⟩
  · obtain ⟨id, captured, counted, hc⟩ := operation_of_answer? hanswer
    cases hc
    cases h.1 with
    | failed hfull => exact hfull rfl
  · by_cases ho : ∃ id, o = .activate id
    · obtain ⟨id, rfl⟩ := ho
      cases h.1 with
      | within _ _ _ hsearched =>
        obtain ⟨-, rfl, -⟩ := Stage.activating.inj hstage
        exact hsearched rfl
      | begun | settling _ | returned _ | failed _ | abandoned _ => cases hstage
    · have ho : ∀ id, o ≠ .activate id := fun id h => ho ⟨id, h⟩
      rw [placed_iff ho] at h
      obtain ⟨-, rfl, -⟩ := h
      exact fun r hr => by cases hr

/-! ### Calls that nobody refuses -/

/-- Whether in a move nothing is created, the promotion is not deleted and the gate refuses
nothing. -/
def Move.spares (p : Uuid) : Move → Bool
  | .begin o => o.spares p
  | .advance _ ch => !ch.refuses
  | _ => true

theorem World.rowsOf?_rewrite (w : World) (id p : Uuid) (content : Content) :
    (w.rewrite id content).rowsOf? p = w.rowsOf? p := by
  simp only [rowsOf?, rewrite, List.find?_map, Option.map_map]
  congr 1
  · funext pool
    simp only [Function.comp]
    split <;> rfl
  · congr 1
    funext pool
    simp only [Function.comp]
    split <;> rfl

/-- Removing a promotion takes no rows from another one. -/
theorem World.rowsOf?_remove_of_ne (w : World) {id p : Uuid} (h : id ≠ p) :
    (w.remove id).rowsOf? p = w.rowsOf? p := by
  rw [rowsOf?_eq, pool?_remove, if_neg (Ne.symm h), rowsOf?_eq]

/-- A step of an operation that leaves the rows of a promotion as they are. -/
theorem Stage.rowsOf?_of_steps {α : Type} {o : Operation} {p : Uuid} {ch : Choice} {caller : Nat}
    {s s' : Shared} {st st' : Stage α} {note : Option Note} (hasks : st.Asks o.MayAsk)
    (ho : o.spares p = true) (hs : Stage.Steps ch caller s st st' s' note) :
    s'.world.rowsOf? p = s.world.rowsOf? p := by
  cases hs with
  | asked =>
    rename_i q next
    match q with
    | .mint | .companyName _ | .cache _ | .store (.count _) | .store (.list _ _ _)
    | .store (.activate _) => rfl
    | .store (.create _ _ _ _) =>
      obtain ⟨⟨company, r, rfl⟩, -⟩ := hasks.1
      cases ho
    | .store (.find id) =>
      simp only [ask]
      split <;> rfl
    | .store (.update id company content) =>
      simp only [ask, World.update]
      split
      · rfl
      · exact World.rowsOf?_rewrite ..
    | .store (.delete id company) =>
      have hdelete : o = .delete id company := hasks.1
      rw [hdelete] at ho
      simp only [ask, World.delete]
      split
      · rfl
      · exact World.rowsOf?_remove_of_ne _ (of_decide_eq_true ho)
  | activated _ | copied _ => rfl
  | activates hp => simp only [World.rowsOf?, Phase.pools_of_steps hp]
  | copies hc => simp only [World.rowsOf?, Copy.pools_of_steps hc]

/-- An activation that goes along these rows, and ends in no other way than with a code or
exhausted. -/
def Phase.Served (rows captured : List Nat) : Phase → Prop
  | arriving => True
  | releasing _ a | finished a => captured = rows ∧ ∀ f, a = .error f → f = .exhausted
  | _ => captured = rows

def Stage.Served (rows captured : List Nat) : Stage (Except Failure String) → Prop
  | asking (.done a) => captured = rows ∧ ∀ f, a = .error f → f = .exhausted
  | asking (.ask (.cache _) _) => captured = rows
  | activating _ p _ => p.Served rows captured
  | _ => True

/-- A step keeps an activation on its way to a code or to exhaustion, along the same rows. -/
theorem Phase.Served.of_steps {caller : Nat} {id : Uuid} {w w' : World} {p p' : Phase}
    {rows captured : List Nat} (h : p.Served rows captured) (hrows : w.rowsOf? id = some rows)
    (hs : Phase.Steps false caller id w p p' w') :
    p'.Served rows (capturedAfter captured (p.note? id p')) := by
  rw [World.rowsOf?_eq] at hrows
  cases hs with
  | missing hnone => simp [hnone] at hrows
  | captured hpool =>
    rw [hpool, Option.map_some, Option.some.injEq] at hrows
    exact hrows
  | passed _ | tried _ | probedRoom _ | probedFull _ | again | waited _ | obtainedRoom _
  | obtainedFull _ | paused => exact h
  | exhausted => exact ⟨h, fun f hf => by cases hf; rfl⟩
  | rejected hrefuses => cases hrefuses
  | counted _ => exact ⟨h, fun f hf => by cases hf⟩
  | @released r a => exact h

/-- The same, of a call. It can only leave the rows by its own activation. -/
theorem Stage.Served.of_step {ch : Choice} {caller : Nat} {id : Uuid} {s s' : Shared}
    {rows captured : List Nat} {counted : Option Nat} {st st' : Stage (Except Failure String)}
    {note : Option Note} (h : st.Served rows captured)
    (hplaced : Activation s.world id captured counted st)
    (hrows : s.world.rowsOf? id = some rows) (hch : ch.refuses = false)
    (hstep : st.step ch caller s = some (st', s', note)) :
    st'.Served rows (capturedAfter captured note) := by
  cases hplaced with
  | begun =>
    cases hstep
    trivial
  | within hdealt hcode hcounted hsearched =>
    cases Stage.steps_of_step hstep with
    | activated hresult =>
      obtain rfl := Phase.eq_finished_of_result? hresult
      rename_i a
      cases a with
      | error f => exact h
      | ok code => exact h.1
    | activates hs => exact Phase.Served.of_steps h hrows (hch ▸ hs)
  | settling _ =>
    rw [Activation.step_settling] at hstep
    cases hstep
    rw [Activation.capturedAfter_staled?]
    exact ⟨h, fun f hf => by cases hf⟩
  | returned _ | failed _ | abandoned _ => cases hstep

/-- An activation of this promotion goes along these rows and is not refused. -/
def Call.Served (p : Uuid) (rows : List Nat) : Call → Prop
  | ⟨.activate id, stage, captured, _⟩ => id = p → stage.Served rows captured
  | _ => True

theorem Call.served_of_ne {p : Uuid} {rows : List Nat} {c : Call}
    (h : ∀ id, c.operation ≠ .activate id) : c.Served p rows := by
  obtain ⟨o, stage, captured, counted⟩ := c
  cases o with
  | activate id => exact absurd rfl (h id)
  | create | list | count | get | update | delete => trivial

/-- A call stays served if the gate does not refuse it. -/
theorem Call.Served.advance {p : Uuid} {rows : List Nat} {c : Call} {ch : Choice} {caller : Nat}
    {s s' : Shared} {note : Option Note} {st' : Stage c.operation.Result} (h : c.Served p rows)
    (hplaced : c.Placed s.world) (hrows : s.world.rowsOf? p = some rows)
    (hch : ch.refuses = false) (hstep : c.stage.step ch caller s = some (st', s', note)) :
    (c.advance st' note).Served p rows := by
  obtain ⟨o, stage, captured, counted⟩ := c
  by_cases ho : ∃ id, o = .activate id
  · obtain ⟨id, rfl⟩ := ho
    rintro rfl
    exact (h rfl).of_step hplaced.1 hrows hch hstep
  · exact served_of_ne fun id hid => ho ⟨id, hid⟩

namespace System

/-- A promotion has these rows, no call takes them from it, and its activations are not refused. -/
structure Serving (p : Uuid) (rows : List Nat) (s : System) : Prop where
  kept : s.shared.world.rowsOf? p = some rows
  spares : ∀ c ∈ s.calls, c.operation.spares p = true
  served : ∀ c ∈ s.calls, c.Served p rows

variable {g : Nat → Int} {s s' : System} {p : Uuid} {rows : List Nat}

/-- No move that spares a promotion takes its rows from it, or refuses an activation of it. -/
theorem Serving.next (h : s.Serving p rows) (hsound : s.Sound g) {m : Move}
    (hspares : m.spares p = true) (hm : s.next m = some s') : s'.Serving p rows := by
  cases happens_of_next hm with
  | begin o =>
    have hmem : ∀ c ∈ s.calls ++ [Call.begin o], c ∈ s.calls ∨ c = .begin o := by simp
    refine ⟨h.kept, ?_, ?_⟩
    · intro c hc
      rcases hmem c hc with hold | rfl
      · exact h.spares c hold
      · exact hspares
    · intro c hc
      rcases hmem c hc with hold | rfl
      · exact h.served c hold
      · cases o with
        | activate id => exact fun _ => trivial
        | create | list | count | get | update | delete => trivial
  | @advance caller ch c stage shared note hc hstep =>
    have hmem : c ∈ s.calls := List.mem_of_getElem? hc
    have hch : ch.refuses = false := by simpa [Move.spares] using hspares
    refine ⟨?_, ?_, ?_⟩
    · exact (Stage.rowsOf?_of_steps (hsound.asks c hmem) (h.spares c hmem)
        (Stage.steps_of_step hstep)).trans h.kept
    · intro d hd
      rcases of_mem_set hd with rfl | ⟨j, -, hj⟩
      · exact h.spares c hmem
      · exact h.spares d (List.mem_of_getElem? hj)
    · intro d hd
      rcases of_mem_set hd with rfl | ⟨j, -, hj⟩
      · exact (h.served c hmem).advance (hsound.placed c hmem) h.kept hch hstep
      · exact h.served d (List.mem_of_getElem? hj)
  | @abandon caller c hc _ =>
    refine ⟨?_, ?_, ?_⟩
    · simp only [World.rowsOf?, pools_letGo]
      exact h.kept
    · intro d hd
      rcases of_mem_set hd with rfl | ⟨j, -, hj⟩
      · exact h.spares c (List.mem_of_getElem? hc)
      · exact h.spares d (List.mem_of_getElem? hj)
    · intro d hd
      rcases of_mem_set hd with rfl | ⟨j, -, hj⟩
      · obtain ⟨o, stage, captured, counted⟩ := c
        cases o with
        | activate id => exact fun _ => trivial
        | create | list | count | get | update | delete => trivial
      · exact h.served d (List.mem_of_getElem? hj)
  | failCache _ | failCodes _ => exact ⟨h.kept, h.spares, h.served⟩

/-- A promotion is served during a whole schedule that spares it. -/
theorem Serving.run (h : s.Serving p rows) (hsound : s.Sound g) {ms : List Move}
    (hspares : ∀ m ∈ ms, m.spares p = true) (hrun : s.run ms = some s') :
    s'.Serving p rows := by
  have hboth : s'.Sound g ∧ s'.Serving p rows := by
    refine run_induction hrun (P := fun t => t.Sound g ∧ t.Serving p rows) ⟨hsound, h⟩ ?_
    rintro t m t' hmem ⟨htsound, ht⟩ hm
    exact ⟨htsound.next hm, ht.next htsound (hspares m hmem) hm⟩
  exact hboth.2

/-! ### How many are served -/

end System

namespace Call

def promotion? (c : Call) : Option Uuid :=
  match c.operation with
  | .activate id => some id
  | _ => none

def succeeded (c : Call) : Bool :=
  match c.answer? with
  | some (.ok _) => true
  | _ => false

/-- What is known of an activation of a promotion that has returned. -/
theorem Served.cases_of_answer? {w : World} {p : Uuid} {rows : List Nat} {c : Call}
    (h : c.Served p rows) (hplaced : c.Placed w) (hp : c.promotion? = some p)
    (hreturned : c.answer?.isSome) :
    (∃ r ∈ rows, c.counted = some r ∧ c.succeeded = true ∧ c.answer? ≠ some (.error .exhausted)) ∨
      c.counted = none ∧ c.succeeded = false ∧ c.answer? = some (.error .exhausted) ∧
        c.captured = rows := by
  obtain ⟨a, ha⟩ := Option.isSome_iff_exists.mp hreturned
  obtain ⟨id, captured, counted, rfl⟩ := operation_of_answer? ha
  obtain rfl : id = p := Option.some.inj hp
  obtain ⟨hcaptured, hserved⟩ := h rfl
  cases hplaced.1 with
  | returned hr => exact Or.inl ⟨_, hcaptured ▸ hr, rfl, rfl, fun h => by cases h⟩
  | failed _ =>
    obtain rfl := hserved _ rfl
    exact Or.inr ⟨rfl, rfl, rfl, hcaptured⟩

/-- A call that was counted in a row of a promotion is an activation of this promotion. -/
theorem Placed.promotion?_of_counted {w : World} {c : Call} (h : c.Placed w) {r : Nat}
    (hr : c.counted = some r) {pool : Pool} (hpool : pool ∈ w.pools) (hmem : r ∈ pool.rows) :
    c.promotion? = some pool.promotion.id := by
  obtain ⟨o, stage, captured, counted⟩ := c
  by_cases ho : ∃ id, o = .activate id
  · obtain ⟨id, rfl⟩ := ho
    rw [(h.2.2 r (h.1.counted_mem hr)).2 pool hpool hmem]
    rfl
  · have ho : ∀ id, o ≠ .activate id := fun id h => ho ⟨id, h⟩
    rw [placed_iff ho] at h
    cases h.2.2.1.symm.trans hr

end Call

def remaining (codes : List CodeCount) : Int :=
  (codes.map (·.maxCount.toInt)).sum - (codes.map (·.activations.toInt)).sum

/-- How often rows may be redeemed never changes. -/
theorem World.Grows.map_maxCount {w w' : World} (h : w.Grows w') {rows : List Nat}
    (hlt : ∀ r ∈ rows, r < w.rows.length) :
    (rows.filterMap w'.count?).map (·.maxCount.toInt) =
      (rows.filterMap w.count?).map (·.maxCount.toInt) :=
  h.map_congr hlt fun k k' _ hmax => by rw [hmax]

namespace System

def activationsOf (s : System) (p : Uuid) : Nat := s.calls.countP fun c => c.promotion? = some p

def successesOf (s : System) (p : Uuid) : Nat :=
  s.calls.countP fun c => c.promotion? = some p ∧ c.succeeded = true

def exhaustionsOf (s : System) (p : Uuid) : Nat :=
  s.calls.countP fun c => c.promotion? = some p ∧ c.answer? = some (.error .exhausted)

variable {g : Nat → Int} {s s' : System} {p : Uuid} {rows : List Nat}

/-- When all activations of a promotion have returned, those that were counted in its rows are those
that have returned a code. -/
theorem Serving.successesOf_eq (h : s.Serving p rows) (hsound : s.Sound g)
    (hreturned : ∀ c ∈ s.calls, c.promotion? = some p → c.answer?.isSome)
    {pool : Pool} (hpool : s.shared.world.pool? p = some pool) (hrows : pool.rows = rows) :
    s.successesOf p = (rows.map s.countedIn).sum := by
  obtain ⟨hmem, hid⟩ := World.mem_of_pool? hpool
  have hnodup : rows.Nodup := hrows ▸ hsound.layout.nodup pool hmem
  have hamong := countP_exists_mem s.calls Call.counted hnodup
  refine Eq.trans ?_ hamong
  refine List.countP_congr fun c hc => ?_
  have hplaced := hsound.placed c hc
  simp only [decide_eq_true_eq]
  constructor
  · rintro ⟨hp, hsucceeded⟩
    rcases (h.served c hc).cases_of_answer? hplaced hp (hreturned c hc hp) with hok | hno
    · obtain ⟨r, hr, hcr, -⟩ := hok
      exact ⟨r, hr, hcr⟩
    · rw [hno.2.1] at hsucceeded
      cases hsucceeded
  · rintro ⟨r, hr, hcr⟩
    have hp : c.promotion? = some p := by
      rw [hplaced.promotion?_of_counted hcr hmem (hrows ▸ hr), hid]
    refine ⟨hp, ?_⟩
    rcases (h.served c hc).cases_of_answer? hplaced hp (hreturned c hc hp) with hok | hno
    · obtain ⟨-, -, -, hsucceeded, -⟩ := hok
      exact hsucceeded
    · rw [hno.1] at hcr
      cases hcr

/-- When all activations of a promotion have returned, each has returned a code or was exhausted. -/
theorem Serving.successesOf_add_exhaustionsOf (h : s.Serving p rows) (hsound : s.Sound g)
    (hreturned : ∀ c ∈ s.calls, c.promotion? = some p → c.answer?.isSome) :
    s.successesOf p + s.exhaustionsOf p = s.activationsOf p := by
  have hapart : ∀ c : Call, c.promotion? = some p ∧ c.succeeded = true →
      ¬ (c.promotion? = some p ∧ c.answer? = some (.error .exhausted)) := by
    rintro c ⟨-, hsucceeded⟩ ⟨-, hexhausted⟩
    simp [Call.succeeded, hexhausted] at hsucceeded
  rw [successesOf, exhaustionsOf, ← countP_or s.calls hapart]
  refine List.countP_congr fun c hc => ?_
  simp only [decide_eq_true_eq]
  constructor
  · rintro (⟨hp, -⟩ | ⟨hp, -⟩) <;> exact hp
  · intro hp
    rcases (h.served c hc).cases_of_answer? (hsound.placed c hc) hp (hreturned c hc hp)
      with hok | hno
    · obtain ⟨r, -, -, hsucceeded, -⟩ := hok
      exact Or.inl ⟨hp, hsucceeded⟩
    · exact Or.inr ⟨hp, hno.2.2.1⟩

/-- Rows that are all full count as much as they may. -/
theorem sum_activations_eq (h : s.shared.world.Bounded)
    (hlt : ∀ r ∈ rows, r < s.shared.world.rows.length)
    (hfull : ∀ r ∈ rows, s.shared.world.roomAt r = false) :
    ((rows.filterMap s.shared.world.count?).map (·.activations.toInt)).sum =
      ((rows.filterMap s.shared.world.count?).map (·.maxCount.toInt)).sum := by
  congr 1
  refine List.map_congr_left fun k hk => ?_
  obtain ⟨r, hr, hkr⟩ := List.mem_filterMap.mp hk
  obtain ⟨k', hk', heq⟩ := h.full (hlt r hr) (hfull r hr)
  obtain rfl := Option.some.inj (hkr.symm.trans hk')
  rw [heq]

/-- What the rows of a store count in all is what is given in the beginning. -/
theorem sum_given {store : Store}
    (hlt : ∀ r ∈ rows, r < (World.ofStore store).rows.length) :
    ((rows.filterMap (World.ofStore store).count?).map (·.activations.toInt)).sum =
      (rows.map (given store)).sum := by
  have hsum := (sound_start store {}).sum_activations hlt
  have hnobody : (rows.map (start store {}).countedIn).sum = 0 := by
    refine List.sum_eq_zero_iff_forall_eq_nat.mpr fun n hn => ?_
    obtain ⟨r, -, rfl⟩ := List.mem_map.mp hn
    rfl
  rw [hnobody, Int.natCast_zero, Int.add_zero] at hsum
  exact hsum

/-- Calls that nobody refuses use up all that is left, or all of them are served. -/
theorem served_exactly {store : Store} {cache : Cache} {ms : List Move} {promo : Promotion}
    (hcounts : ∀ p ∈ store.promotions, ∀ c ∈ p.codes,
      0 ≤ c.activations.toInt ∧ c.activations.toInt ≤ c.maxCount.toInt)
    (hrun : (start store cache).run ms = some s) (hfound : store.find? p = some promo)
    (hspares : ∀ m ∈ ms, m.spares p = true)
    (hreturned : ∀ c ∈ s.calls, c.promotion? = some p → c.answer?.isSome) :
    (s.successesOf p : Int) = min (s.activationsOf p : Int) (remaining promo.codes) ∧
      s.successesOf p + s.exhaustionsOf p = s.activationsOf p := by
  have hstart := sound_start store cache
  obtain ⟨hsound, hgrows⟩ := hstart.run hrun
  have hbounded := hstart.bounded_run (bounded_start cache hcounts) hrun
  -- The rows of the promotion at first, which it keeps.
  rw [← World.toStore_ofStore store, World.find?_toStore] at hfound
  obtain ⟨first, hfirst, hpresent⟩ := Option.map_eq_some_iff.mp hfound
  have hcodes : promo.codes = first.rows.filterMap (World.ofStore store).count? := by
    rw [← hpresent]
    rfl
  have hserving : s.Serving p first.rows := by
    refine Serving.run (s := start store cache) ⟨?_, ?_, ?_⟩ hstart hspares hrun
    · simp [start, World.rowsOf?_eq, hfirst]
    · exact fun c hc => by cases hc
    · exact fun c hc => by cases hc
  have hkept := hserving.kept
  rw [World.rowsOf?_eq] at hkept
  obtain ⟨pool, hpool, hrows⟩ := Option.map_eq_some_iff.mp hkept
  have hltfirst : ∀ r ∈ first.rows, r < (World.ofStore store).rows.length :=
    hstart.layout.inRange first (World.mem_of_pool? hfirst).1
  have hlt : ∀ r ∈ first.rows, r < s.shared.world.rows.length := fun r hr =>
    Nat.lt_of_lt_of_le (hltfirst r hr) hgrows.length
  -- What the rows count now is what they counted at first and one for each code returned.
  have hsuccesses := hserving.successesOf_eq hsound hreturned hpool hrows
  have htotal := hserving.successesOf_add_exhaustionsOf hsound hreturned
  have hsum := hsound.sum_activations hlt
  have hsumfirst := sum_given hltfirst
  have hmax := hgrows.map_maxCount hltfirst
  have hle := sum_activations_le hbounded first.rows
  have hremaining : remaining promo.codes =
      ((first.rows.filterMap s.shared.world.count?).map (·.maxCount.toInt)).sum -
        (first.rows.map (given store)).sum := by
    rw [remaining, hcodes, ← hsumfirst, hmax]
    rfl
  refine ⟨?_, htotal⟩
  by_cases hnone : s.exhaustionsOf p = 0
  · omega
  · -- Somebody was exhausted, so that the rows are full.
    obtain ⟨c, hc, hexhausted⟩ := List.countP_pos_iff.mp (Nat.pos_of_ne_zero hnone)
    obtain ⟨hp, hanswer⟩ := of_decide_eq_true hexhausted
    rcases (hserving.served c hc).cases_of_answer? (hsound.placed c hc) hp (hreturned c hc hp)
      with hok | hno
    · obtain ⟨-, -, -, -, hne⟩ := hok
      exact absurd hanswer hne
    · have hfull := (hsound.placed c hc).full_of_exhausted (Or.inl hanswer)
      rw [hno.2.2.2] at hfull
      have heq := sum_activations_eq hbounded hlt hfull
      omega

/-- Exhaustion is never misreported and nobody gets stuck. Whatever calls are made and in whatever
order their steps are taken: every row that an exhausted activation has gone along counts as many
activations as it may; if all activations of a promotion have returned, nothing of it was refused or
taken away meanwhile, then as many of them have returned a code as there were codes left at first,
or all of them, and the others were exhausted; and as long as a call is on its way, some call can
take its next step, whatever is decided for it. -/
theorem exhaustion_is_truthful {store : Store} {cache : Cache} {ms : List Move} {s : System}
    (hcounts : ∀ p ∈ store.promotions, ∀ c ∈ p.codes,
      0 ≤ c.activations.toInt ∧ c.activations.toInt ≤ c.maxCount.toInt)
    (hrun : (start store cache).run ms = some s) :
    (∀ c ∈ s.calls, c.Exhausted → ∀ r ∈ c.captured,
      ∃ k, s.shared.world.count? r = some k ∧ k.activations = k.maxCount) ∧
    (∀ p promo, store.find? p = some promo → (∀ m ∈ ms, m.spares p = true) →
      (∀ c ∈ s.calls, c.promotion? = some p → c.answer?.isSome) →
      (s.successesOf p : Int) = min (s.activationsOf p : Int) (remaining promo.codes) ∧
        s.successesOf p + s.exhaustionsOf p = s.activationsOf p) ∧
    ((∃ c ∈ s.calls, c.stage.unfinished = true) →
      ∃ caller, ∀ ch, (s.next (.advance caller ch)).isSome) := by
  have hstart := sound_start store cache
  have hsound := (hstart.run hrun).1
  have hbounded := hstart.bounded_run (bounded_start cache hcounts) hrun
  refine ⟨?_, ?_, ?_⟩
  · intro c hc hexhausted r hr
    have hplaced := hsound.placed c hc
    have hfull := hplaced.full_of_exhausted hexhausted r hr
    exact hbounded.full (hplaced.captured_rows.2 r hr) hfull
  · intro p promo hfound hspares hreturned
    exact served_exactly hcounts hrun hfound hspares hreturned
  · rintro ⟨c, hc, hunfinished⟩
    exact hsound.exists_step hc hunfinished

/-- Of two callers for one code, one gets it and the other one is told that there is none left. -/
theorem sole_code_exhausted_once : ∃ s,
    (start (.single [⟨"SOLE", 0, 1⟩]) {}).run soleCodeRace = some s ∧
      s.successesOf (Supply.idAt 0) = 1 ∧ s.exhaustionsOf (Supply.idAt 0) = 1 := by
  obtain ⟨s, hs⟩ := Option.isSome_iff_exists.mp
    (by decide : ((start (.single [⟨"SOLE", 0, 1⟩]) {}).run soleCodeRace).isSome)
  have hcounts : ∀ p ∈ (Store.single [⟨"SOLE", 0, 1⟩]).promotions, ∀ c ∈ p.codes,
      0 ≤ c.activations.toInt ∧ c.activations.toInt ≤ c.maxCount.toInt := by decide
  have hspares : ∀ m ∈ soleCodeRace, m.spares (Supply.idAt 0) = true := by decide
  have hcalls : ((start (.single [⟨"SOLE", 0, 1⟩]) {}).run soleCodeRace).map
      (fun s => (s.calls.all fun c => c.answer?.isSome, s.activationsOf (Supply.idAt 0))) =
        some (true, 2) := by decide
  rw [hs, Option.map_some, Option.some.injEq, Prod.mk.injEq, List.all_eq_true] at hcalls
  obtain ⟨hreturned, htwo⟩ := hcalls
  obtain ⟨hsuccesses, htotal⟩ := (exhaustion_is_truthful hcounts hs).2.1 _ _ rfl hspares
    fun c hc _ => hreturned c hc
  have hone : (s.successesOf (Supply.idAt 0) : Int) = 1 := by
    rw [hsuccesses, htwo]
    decide
  exact ⟨s, hs, by omega, by omega⟩

end System

end Memory

end Promotions
