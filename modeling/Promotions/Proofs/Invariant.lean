import Promotions.Proofs.Counting

/-!
What holds after any schedule, whatever the gate decides, whichever operations of the cache fail and
whichever calls are given up. The invariant ties three things together for every row: the call that
holds it, the room that its holder has found in it, and the calls that were counted in it.
-/

namespace Promotions.Memory

/-! ### Where an activation is -/

def Phase.code? : Phase → Option String
  | releasing _ (.ok code) | finished (.ok code) => some code
  | _ => none

/-- What an activation knows of the rows that it goes along. As long as it only passes over rows it
knows nothing of them; when it waits for them, those that it is done with are full. -/
def Phase.Searched (w : World) (captured : List Nat) : Phase → Prop
  | probing _ all | probed _ _ all => all = captured
  | waiting left => ∀ r ∈ captured, r ∈ left ∨ w.roomAt r = false
  | obtained x left => ∀ r ∈ captured, r ∈ x :: left ∨ w.roomAt r = false
  | releasing _ a => a ≠ .error .exhausted
  | finished a => a = .error .exhausted → ∀ r ∈ captured, w.roomAt r = false
  | _ => True

/-- The places at which an activation can be, with the rows that it goes along and the row in which
it was counted. The code that it hands out is the code of that row, and where it ends for want of
room there is none in any of its rows. -/
inductive Activation (w : World) (id : Uuid) (captured : List Nat) :
    Option Nat → Stage (Except Failure String) → Prop
  | begun : Activation w id captured none (.asking (Service.activate id))
  | within {counted : Option Nat} {p : Phase} (hrows : ∀ r ∈ p.rows, r ∈ captured)
      (hcode : p.code? = counted.map w.codeAt) (hcounted : ∀ r, counted = some r → r ∈ captured)
      (hsearched : p.Searched w captured) :
      Activation w id captured counted (.activating id p (Service.settle id))
  | settling {r : Nat} (hr : r ∈ captured) :
      Activation w id captured (some r) (.asking (Service.settle id (.ok (w.codeAt r))))
  | returned {r : Nat} (hr : r ∈ captured) :
      Activation w id captured (some r) (.asking (.done (.ok (w.codeAt r))))
  | failed {f : Failure} (hfull : f = .exhausted → ∀ r ∈ captured, w.roomAt r = false) :
      Activation w id captured none (.asking (.done (.error f)))
  | abandoned {counted : Option Nat} (hcounted : ∀ r, counted = some r → r ∈ captured) :
      Activation w id captured counted .abandoned

/-- What an activation knows of full rows stays true as long as they stay full. -/
theorem Phase.Searched.mono {w w' : World} {captured : List Nat} {p : Phase}
    (h : p.Searched w captured)
    (hfull : ∀ r ∈ captured, w.roomAt r = false → w'.roomAt r = false) :
    p.Searched w' captured := by
  cases p with
  | waiting left => exact fun r hr => (h r hr).imp_right (hfull r hr)
  | obtained x left => exact fun r hr => (h r hr).imp_right (hfull r hr)
  | finished a => exact fun ha r hr => hfull r hr (h ha r hr)
  | arriving | probing left all | probed x left all | pausing x | deciding x | releasing x a =>
    exact h

/-- What an activation does next adds to what it knows. -/
theorem Phase.Searched.of_steps {refuses : Bool} {caller : Nat} {id : Uuid} {w w' : World}
    {p p' : Phase} {captured : List Nat} (h : p.Searched w captured)
    (hs : Phase.Steps refuses caller id w p p' w') :
    p'.Searched w (capturedAfter captured (p.note? id p')) := by
  cases hs with
  | captured _ => rfl
  | passed _ | tried _ | probedFull _ => exact h
  | again => exact fun r hr => Or.inl (h.symm ▸ hr)
  | waited _ => exact h
  | obtainedFull hfull =>
    intro r hr
    rcases h r hr with hleft | hknown
    · rcases List.mem_cons.mp hleft with rfl | hleft
      · exact Or.inr hfull
      · exact Or.inl hleft
    · exact Or.inr hknown
  | exhausted =>
    intro _ r hr
    rcases h r hr with hleft | hknown
    · cases hleft
    · exact hknown
  | missing _ => exact fun ha => by cases ha
  | rejected _ => exact fun ha => by cases ha
  | counted _ => exact fun ha => by cases ha
  | @released x a => exact fun ha => absurd ha h
  | probedRoom _ | obtainedRoom _ | paused => trivial

namespace Activation

variable {w w' : World} {id : Uuid} {captured : List Nat} {counted : Option Nat}
  {st st' : Stage (Except Failure String)}

theorem counted_mem (h : Activation w id captured counted st) {r : Nat}
    (hr : counted = some r) : r ∈ captured := by
  cases h with
  | begun | failed _ => cases hr
  | within _ _ hcounted _ => exact hcounted r hr
  | settling hmem | returned hmem => exact Option.some.inj hr ▸ hmem
  | abandoned hcounted => exact hcounted r hr

/-- The place of an activation stays right in every later world. -/
theorem mono (h : Activation w id captured counted st) (hg : w.Grows w')
    (hlt : ∀ r ∈ captured, r < w.rows.length) : Activation w' id captured counted st := by
  have hfull : ∀ r ∈ captured, w.roomAt r = false → w'.roomAt r = false :=
    fun r hr => hg.full (hlt r hr)
  cases h with
  | begun => exact .begun
  | within hrows hcode hcounted hsearched =>
    refine .within hrows (hcode.trans ?_) hcounted (hsearched.mono hfull)
    cases counted with
    | none => rfl
    | some r => simp [hg.codeAt (hlt r (hcounted r rfl))]
  | settling hr => exact hg.codeAt (hlt _ hr) ▸ .settling hr
  | returned hr => exact hg.codeAt (hlt _ hr) ▸ .returned hr
  | failed hnone => exact .failed fun hf r hr => hfull r hr (hnone hf r hr)
  | abandoned hcounted => exact .abandoned hcounted

/-- A step of an activation leads from a place at which it can be to another one. -/
theorem of_phase {p p' : Phase} {refuses : Bool} {caller : Nat}
    (hrows : ∀ r ∈ p.rows, r ∈ captured) (hcode : p.code? = counted.map w.codeAt)
    (hcounted : ∀ r, counted = some r → r ∈ captured) (hsearched : p.Searched w captured)
    (hs : Phase.Steps refuses caller id w p p' w') :
    Activation w id (capturedAfter captured (p.note? id p'))
      (countedAfter counted (p.note? id p')) (.activating id p' (Service.settle id)) := by
  have hsearched' := hsearched.of_steps hs
  cases hs with
  | captured _ =>
    -- No activation has been counted before it knows its rows.
    cases counted with
    | some r => cases hcode
    | none =>
      refine .within ?_ hcode ?_ hsearched'
      · simp [Phase.rows, capturedAfter, Phase.note?]
      · simp [countedAfter, Phase.note?]
  | @counted r _ =>
    refine .within hrows rfl ?_ hsearched'
    intro x hx
    cases hx
    exact hrows r (by simp [Phase.rows])
  | @released r a =>
    refine .within (fun _ hx => by cases hx) ?_ hcounted hsearched'
    cases a <;> exact hcode
  | missing _ | exhausted => exact .within (fun _ hx => by cases hx) hcode hcounted hsearched'
  | paused | rejected _ => exact .within hrows hcode hcounted hsearched'
  | passed _ | tried _ | probedRoom _ | probedFull _ | again | waited _ | obtainedRoom _
  | obtainedFull _ =>
    refine .within (fun x hx => hrows x ?_) hcode hcounted hsearched'
    simp only [Phase.rows, List.mem_cons, List.mem_append, List.not_mem_nil, or_false] at hx ⊢
    tauto

theorem step_settling (ch : Choice) (caller : Nat) (s : Shared) (id : Uuid) (code : String) :
    Stage.step ch caller s (.asking (Service.settle id (.ok code))) =
      some (.asking (.done (.ok code)),
        { s with cache := (Cache.answer (.invalidate (detailKey id)) s.cache).2 },
        staled? (.invalidate (detailKey id))
          (Cache.answer (.invalidate (detailKey id)) s.cache).1) :=
  rfl

theorem capturedAfter_staled? (before : List Nat) (r : CacheRequest) (a : r.Answer) :
    capturedAfter before (staled? r a) = before := by
  cases r with
  | invalidate key => cases a <;> rfl
  | find key | generation key | fill key value generation => rfl

theorem countedAfter_staled? (before : Option Nat) (r : CacheRequest) (a : r.Answer) :
    countedAfter before (staled? r a) = before := by
  cases r with
  | invalidate key => cases a <;> rfl
  | find key | generation key | fill key value generation => rfl

/-- A step takes an activation from one of these places to another one. -/
theorem of_step {ch : Choice} {caller : Nat} {s s' : Shared} {note : Option Note}
    (h : Activation s.world id captured counted st)
    (hstep : st.step ch caller s = some (st', s', note)) :
    Activation s.world id (capturedAfter captured note) (countedAfter counted note) st' := by
  cases h with
  | begun =>
    cases hstep
    exact .within (by simp [Phase.rows]) rfl (fun _ hr => by cases hr) trivial
  | within hrows hcode hcounted hsearched =>
    cases Stage.steps_of_step hstep with
    | activated hresult =>
      obtain rfl := Phase.eq_finished_of_result? hresult
      rename_i a
      cases counted with
      | none =>
        cases a with
        | error f => exact .failed fun hf => hsearched (hf ▸ rfl)
        | ok code => cases hcode
      | some r =>
        cases a with
        | error f => cases hcode
        | ok code =>
          cases hcode
          exact .settling (hcounted r rfl)
    | activates hs => exact of_phase hrows hcode hcounted hsearched hs
  | settling hr =>
    rw [step_settling] at hstep
    cases hstep
    rw [capturedAfter_staled?, countedAfter_staled?]
    exact .returned hr
  | returned _ | failed _ | abandoned _ => cases hstep

/-- The rows that an activation goes along are those of its promotion, as it found it. -/
theorem captured_of_step {ch : Choice} {caller : Nat} {s s' : Shared} {note : Option Note}
    (h : Activation s.world id captured counted st)
    (hstep : st.step ch caller s = some (st', s', note)) :
    capturedAfter captured note = captured ∨
      ∃ pool, s.world.pool? id = some pool ∧ capturedAfter captured note = pool.rows := by
  cases h with
  | begun =>
    cases hstep
    exact Or.inl rfl
  | within _ _ _ _ =>
    cases Stage.steps_of_step hstep with
    | activated _ => exact Or.inl rfl
    | activates hs =>
      cases hs with
      | captured hpool => exact Or.inr ⟨_, hpool, rfl⟩
      | @released r a => exact Or.inl rfl
      | missing _ | passed _ | tried _ | probedRoom _ | probedFull _ | again | waited _
      | obtainedRoom _ | obtainedFull _ | exhausted | paused | rejected _ | counted _ =>
        exact Or.inl rfl
  | settling _ =>
    rw [step_settling] at hstep
    cases hstep
    exact Or.inl (capturedAfter_staled? ..)
  | returned _ | failed _ | abandoned _ => cases hstep

end Activation

/-! ### Where any call is -/

def Stage.activates {α : Type} : Stage α → Bool
  | activating _ _ _ => true
  | _ => false

/-- A call that may not activate does not come to it, and nothing is noted of it but what it changes
or declares stale. -/
theorem Stage.quiet_of_steps {o : Operation} {α : Type} {ch : Choice} {caller : Nat}
    {s s' : Shared} {st st' : Stage α} {note : Option Note} (hasks : st.Asks o.MayAsk)
    (ho : ∀ id, o ≠ .activate id) (hquiet : st.activates = false)
    (hs : Stage.Steps ch caller s st st' s' note) :
    st'.activates = false ∧ capturedAfter [] note = [] ∧ countedAfter none note = none := by
  cases hs with
  | asked =>
    rename_i q next
    match q with
    | .mint | .companyName _ | .store (.count _) | .store (.list _ _ _) => exact ⟨rfl, rfl, rfl⟩
    | .cache r =>
      exact ⟨rfl, Activation.capturedAfter_staled? .., Activation.countedAfter_staled? ..⟩
    | .store (.create id _ _ _) =>
      simp only [ask]
      split
      · exact ⟨rfl, rfl, rfl⟩
      · cases s.world.pool? id <;> exact ⟨rfl, rfl, rfl⟩
    | .store (.find _) =>
      simp only [ask]
      split <;> exact ⟨rfl, rfl, rfl⟩
    | .store (.update _ _ _) =>
      simp only [ask, World.update]
      split <;> exact ⟨rfl, rfl, rfl⟩
    | .store (.delete _ _) =>
      simp only [ask, World.delete]
      split <;> exact ⟨rfl, rfl, rfl⟩
    | .store (.activate id) => exact absurd hasks.1 (ho id)
  | activated _ | activates _ => cases hquiet
  | copied _ | copies _ => exact ⟨rfl, rfl, rfl⟩

/-- Where a call is. An activation goes along rows of its own promotion only, and any other
operation neither goes along rows nor counts. -/
def Call.Placed (w : World) : Call → Prop
  | ⟨.activate id, stage, captured, counted⟩ =>
    Activation w id captured counted stage ∧ captured.Nodup ∧
      ∀ r ∈ captured, r < w.rows.length ∧ ∀ pool ∈ w.pools, r ∈ pool.rows → pool.promotion.id = id
  | ⟨_, stage, captured, counted⟩ =>
    stage.activates = false ∧ captured = [] ∧ counted = none ∧ ∀ r ∈ stage.rows, r < w.rows.length

namespace Call

variable {w w' : World} {c : Call}

/-- For calls other than activations. -/
theorem placed_iff {o : Operation} (ho : ∀ id, o ≠ .activate id) (stage : Stage o.Result)
    (captured : List Nat) (counted : Option Nat) :
    Placed w ⟨o, stage, captured, counted⟩ ↔ stage.activates = false ∧ captured = [] ∧
      counted = none ∧ ∀ r ∈ stage.rows, r < w.rows.length := by
  cases o with
  | activate id => exact absurd rfl (ho id)
  | create | list | count | get | update | delete => exact Iff.rfl

/-- A call is where it can be in every later world too. -/
theorem Placed.mono (h : c.Placed w) (hg : w.Grows w') : c.Placed w' := by
  obtain ⟨o, stage, captured, counted⟩ := c
  by_cases ho : ∃ id, o = .activate id
  · obtain ⟨id, rfl⟩ := ho
    obtain ⟨hstage, hnodup, hcaptured⟩ := h
    refine ⟨hstage.mono hg fun r hr => (hcaptured r hr).1, hnodup, ?_⟩
    intro r hr
    obtain ⟨hlt, hown⟩ := hcaptured r hr
    refine ⟨Nat.lt_of_lt_of_le hlt hg.length, fun pool' hp' hr' => ?_⟩
    obtain ⟨pool, hp, hrp, hid⟩ := hg.pools pool' hp' r hr' hlt
    exact hid ▸ hown pool hp hrp
  · have ho : ∀ id, o ≠ .activate id := fun id h => ho ⟨id, h⟩
    rw [placed_iff ho] at h ⊢
    exact ⟨h.1, h.2.1, h.2.2.1, fun r hr => Nat.lt_of_lt_of_le (h.2.2.2 r hr) hg.length⟩

/-- A call begins where it can be. -/
theorem placed_begin (w : World) (o : Operation) : (begin o).Placed w := by
  by_cases ho : ∃ id, o = .activate id
  · obtain ⟨id, rfl⟩ := ho
    exact ⟨.begun, List.nodup_nil, fun r (h : r ∈ []) => by cases h⟩
  · have ho : ∀ id, o ≠ .activate id := fun id h => ho ⟨id, h⟩
    exact (placed_iff ho _ _ _).mpr ⟨rfl, rfl, rfl, fun r h => by cases h⟩

/-- A call that was given up is at no place at all. -/
theorem Placed.abandon (h : c.Placed w) : c.abandon.Placed w := by
  obtain ⟨o, stage, captured, counted⟩ := c
  by_cases ho : ∃ id, o = .activate id
  · obtain ⟨id, rfl⟩ := ho
    exact ⟨.abandoned fun r hr => h.1.counted_mem hr, h.2⟩
  · have ho : ∀ id, o ≠ .activate id := fun id h => ho ⟨id, h⟩
    rw [placed_iff ho] at h
    exact (placed_iff ho _ _ _).mpr ⟨rfl, h.2.1, h.2.2.1, fun r h => by cases h⟩

/-- The rows that a call still deals with exist. -/
theorem Placed.rows_lt (h : c.Placed w) : ∀ r ∈ c.stage.rows, r < w.rows.length := by
  obtain ⟨o, stage, captured, counted⟩ := c
  by_cases ho : ∃ id, o = .activate id
  · obtain ⟨id, rfl⟩ := ho
    obtain ⟨hstage, -, hcaptured⟩ := h
    intro r hr
    cases hstage with
    | within hrows _ _ _ => exact (hcaptured r (hrows r hr)).1
    | begun | settling _ | returned _ | failed _ | abandoned _ => cases hr
  · have ho : ∀ id, o ≠ .activate id := fun id h => ho ⟨id, h⟩
    rw [placed_iff ho] at h
    exact h.2.2.2

/-- The rows that a call goes along exist, and it goes along each of them once. -/
theorem Placed.captured_rows (h : c.Placed w) :
    c.captured.Nodup ∧ ∀ r ∈ c.captured, r < w.rows.length := by
  obtain ⟨o, stage, captured, counted⟩ := c
  by_cases ho : ∃ id, o = .activate id
  · obtain ⟨id, rfl⟩ := ho
    exact ⟨h.2.1, fun r hr => (h.2.2 r hr).1⟩
  · have ho : ∀ id, o ≠ .activate id := fun id h => ho ⟨id, h⟩
    rw [placed_iff ho] at h
    obtain ⟨-, rfl, -⟩ := h
    exact ⟨List.nodup_nil, fun r hr => by cases hr⟩

/-- The row in which a call was counted exists. -/
theorem Placed.counted_lt (h : c.Placed w) {r : Nat} (hr : c.counted = some r) :
    r < w.rows.length := by
  obtain ⟨o, stage, captured, counted⟩ := c
  by_cases ho : ∃ id, o = .activate id
  · obtain ⟨id, rfl⟩ := ho
    exact (h.2.2 r (h.1.counted_mem hr)).1
  · have ho : ∀ id, o ≠ .activate id := fun id h => ho ⟨id, h⟩
    rw [placed_iff ho] at h
    cases h.2.2.1.symm.trans hr

/-- The next step of a call leads to a place at which it can be. -/
theorem Placed.advance {ch : Choice} {caller : Nat} {s s' : Shared} {note : Option Note}
    {st' : Stage c.operation.Result} (h : c.Placed s.world)
    (hasks : c.stage.Asks c.operation.MayAsk) (hl : s.world.Layout)
    (hstep : c.stage.step ch caller s = some (st', s', note)) (hg : s.world.Grows s'.world) :
    (c.advance st' note).Placed s'.world := by
  obtain ⟨o, stage, captured, counted⟩ := c
  by_cases ho : ∃ id, o = .activate id
  · obtain ⟨id, rfl⟩ := ho
    obtain ⟨hstage, hnodup, hcaptured⟩ := h
    -- Rows just found belong to the promotion; it shares them with no other one, nor will it.
    have hfound : (capturedAfter captured note).Nodup ∧
        ∀ r ∈ capturedAfter captured note, r < s.world.rows.length ∧
          ∀ pool ∈ s.world.pools, r ∈ pool.rows → pool.promotion.id = id := by
      rcases hstage.captured_of_step hstep with hsame | ⟨found, hfound, hrows⟩
      · rw [hsame]
        exact ⟨hnodup, hcaptured⟩
      · rw [hrows]
        obtain ⟨hmem, hid⟩ := World.mem_of_pool? hfound
        exact ⟨hl.nodup found hmem, fun r hr => ⟨hl.inRange found hmem r hr,
          fun pool hp hr' => hid ▸ hl.apart pool hp found hmem r hr' hr⟩⟩
    refine ⟨(hstage.of_step hstep).mono hg fun r hr => (hfound.2 r hr).1, hfound.1, ?_⟩
    intro r hr
    obtain ⟨hlt, hown⟩ := hfound.2 r hr
    refine ⟨Nat.lt_of_lt_of_le hlt hg.length, fun pool' hp' hr' => ?_⟩
    obtain ⟨pool, hp, hrp, hid⟩ := hg.pools pool' hp' r hr' hlt
    exact hid ▸ hown pool hp hrp
  · have ho : ∀ id, o ≠ .activate id := fun id h => ho ⟨id, h⟩
    rw [placed_iff ho] at h
    obtain ⟨hquiet, rfl, rfl, hrows⟩ := h
    have hs := Stage.steps_of_step hstep
    obtain ⟨hquiet', hcaptured', hcounted'⟩ := Stage.quiet_of_steps hasks ho hquiet hs
    refine (placed_iff ho _ _ _).mpr ⟨hquiet', hcaptured', hcounted', fun r hr => ?_⟩
    rcases Stage.rows_of_steps hs r hr with hold | ⟨pool, hp, hnew⟩
    · exact Nat.lt_of_lt_of_le (hrows r hold) hg.length
    · exact Nat.lt_of_lt_of_le (hl.inRange pool hp r hnew) hg.length

end Call

/-! ### The invariant -/

/-- A row that was found ready is held. -/
theorem Stage.held?_of_ready? {α : Type} {st : Stage α} {r : Nat} (h : st.ready? = some r) :
    st.held? = some r := by
  cases st with
  | activating id p next => cases p <;> first | exact h | cases h
  | asking d | copying c next | abandoned => cases h

/-- A call that is about to be counted has not been counted. -/
theorem Call.Placed.counted_eq_none {w : World} {c : Call} (h : c.Placed w) {id : Uuid} {r : Nat}
    {next : Except Failure String → Action c.operation.Result}
    (hstage : c.stage = .activating id (.deciding r) next) : c.counted = none := by
  obtain ⟨o, stage, captured, counted⟩ := c
  by_cases ho : ∃ id, o = .activate id
  · obtain ⟨id, rfl⟩ := ho
    cases h.1 with
    | within _ hcode _ _ =>
      obtain ⟨-, rfl, -⟩ := Stage.activating.inj hstage
      cases counted with
      | none => rfl
      | some x => cases hcode
    | begun | settling _ | returned _ | failed _ | abandoned _ => cases hstage
  · have ho : ∀ id, o ≠ .activate id := fun id h => ho ⟨id, h⟩
    rw [placed_iff ho] at h
    exact h.2.2.1

/-- The row in which a call is about to be counted belongs to no other promotion than its own. -/
theorem Call.Placed.owns_deciding {w : World} {c : Call} (h : c.Placed w) {id : Uuid} {r : Nat}
    {next : Except Failure String → Action c.operation.Result}
    (hstage : c.stage = .activating id (.deciding r) next) :
    ∀ pool ∈ w.pools, r ∈ pool.rows → pool.promotion.id = id := by
  obtain ⟨o, stage, captured, counted⟩ := c
  by_cases ho : ∃ id, o = .activate id
  · obtain ⟨x, rfl⟩ := ho
    obtain ⟨hplaced, -, hcaptured⟩ := h
    cases hplaced with
    | within hrows _ _ _ =>
      obtain ⟨rfl, rfl, -⟩ := Stage.activating.inj hstage
      exact (hcaptured r (hrows r (List.mem_singleton.mpr rfl))).2
    | begun | settling _ | returned _ | failed _ | abandoned _ => cases hstage
  · have ho : ∀ id, o ≠ .activate id := fun id h => ho ⟨id, h⟩
    rw [placed_iff ho] at h
    obtain ⟨hquiet, -⟩ := h
    simp only at hstage
    rw [hstage] at hquiet
    cases hquiet

namespace System

def held (s : System) (i : Nat) : Option Nat := (s.calls[i]?).bind (·.stage.held?)

def countedIn (s : System) (r : Nat) : Nat := s.calls.countP fun c => c.counted = some r

/-- What holds after any schedule, when `given` is what the rows counted at first. -/
structure Sound (given : Nat → Int) (s : System) : Prop where
  layout : s.shared.world.Layout
  asks : ∀ c ∈ s.calls, c.stage.Asks c.operation.MayAsk
  placed : ∀ c ∈ s.calls, c.Placed s.shared.world
  /-- Who holds a row is the call that says so. -/
  heldBy : s.shared.world.HeldBy s.held
  /-- What a call has found room in has room as long as the call holds it. -/
  room : ∀ c ∈ s.calls, ∀ r, c.stage.ready? = some r → s.shared.world.roomAt r = true
  /-- A row counts the calls that were counted in it. -/
  tally : ∀ r k, s.shared.world.count? r = some k →
    k.activations.toInt = given r + s.countedIn r
  fresh : ∀ r, s.shared.world.rows.length ≤ r → given r = 0

def given (store : Store) (r : Nat) : Int :=
  ((World.ofStore store).count? r).elim 0 (·.activations.toInt)

/-- Everything holds in the beginning: nobody holds a row, and nothing was counted yet. -/
theorem sound_start (store : Store) (cache : Cache) :
    (start store cache).Sound (given store) := by
  refine ⟨World.layout_ofStore store, ?_, ?_, ?_, ?_, ?_, ?_⟩
  · intro c hc
    cases hc
  · intro c hc
    cases hc
  · intro r i
    simp [start, held, World.holder?_ofStore]
  · intro c hc
    cases hc
  · intro r k hk
    simp [given, countedIn, start, show (World.ofStore store).count? r = some k from hk]
  · intro r hr
    have hnone : (World.ofStore store).count? r = none := by
      simpa [World.count?, start] using hr
    simp [given, hnone]

variable {given : Nat → Int} {s s' : System}

/-- The caller's turn in a step. -/
theorem Sound.turn (h : s.Sound given) {caller : Nat} {ch : Choice} {c : Call} {shared : Shared}
    {stage : Stage c.operation.Result} {note : Option Note} (hc : s.calls[caller]? = some c)
    (hstep : c.stage.step ch caller s.shared = some (stage, shared, note)) :
    Turn caller s.shared.world c.stage stage note shared.world :=
  Turn.of_steps (h.asks c (List.mem_of_getElem? hc)) (Stage.steps_of_step hstep)

/-- No two calls hold the same row. -/
theorem Sound.eq_of_held (h : s.Sound given) {i j : Nat} {c d : Call} {r : Nat}
    (hc : s.calls[i]? = some c) (hd : s.calls[j]? = some d) (hcr : c.stage.held? = some r)
    (hdr : d.stage.held? = some r) : i = j :=
  have hi : s.held i = some r := by simp [held, hc, hcr]
  have hj : s.held j = some r := by simp [held, hd, hdr]
  h.heldBy.injective hi hj

/-- How a count of calls changes when one call does. -/
theorem countP_set_add {calls : List Call} {i : Nat} {c c' : Call} (p : Call → Prop)
    [DecidablePred p] (hc : calls[i]? = some c) :
    (calls.set i c').countP p + (if p c then 1 else 0) =
      calls.countP p + (if p c' then 1 else 0) := by
  obtain ⟨hi, rfl⟩ := List.getElem?_eq_some_iff.mp hc
  have hle := List.boole_getElem_le_countP (p := fun c => decide (p c)) hi
  rw [List.countP_set hi]
  simp only [decide_eq_true_eq] at hle ⊢
  omega

theorem held_set {calls : List Call} {i : Nat} {c : Call} (hc : calls[i]? = some c) (c' : Call)
    (j : Nat) :
    ((calls.set i c')[j]?).bind (·.stage.held?) =
      if j = i then c'.stage.held? else (calls[j]?).bind (·.stage.held?) := by
  obtain ⟨hi, -⟩ := List.getElem?_eq_some_iff.mp hc
  rw [List.getElem?_set]
  by_cases hj : j = i
  · simp [hj, hi]
  · simp [hj, Ne.symm hj]

/-- A call after a change of one call is the changed one, or another one that is as it was. -/
theorem of_mem_set {calls : List Call} {i : Nat} {c' d : Call} (hd : d ∈ calls.set i c') :
    d = c' ∨ ∃ j, j ≠ i ∧ calls[j]? = some d := by
  obtain ⟨j, hj⟩ := List.mem_iff_getElem?.mp hd
  rw [List.getElem?_set] at hj
  split at hj
  · split at hj <;> cases hj
    exact Or.inl rfl
  · rename_i hne
    exact Or.inr ⟨j, Ne.symm hne, hj⟩

/-- A call that begins holds nothing and has counted nothing. -/
theorem Sound.begin (h : s.Sound given) (o : Operation) :
    Sound given { s with calls := s.calls ++ [.begin o] } := by
  have hmem : ∀ c ∈ s.calls ++ [Call.begin o], c ∈ s.calls ∨ c = .begin o := by simp
  refine ⟨h.layout, ?_, ?_, ?_, ?_, ?_, h.fresh⟩
  · intro c hc
    rcases hmem c hc with hold | rfl
    · exact h.asks c hold
    · exact o.action_asks
  · intro c hc
    rcases hmem c hc with hold | rfl
    · exact h.placed c hold
    · exact Call.placed_begin _ o
  · refine h.heldBy.congr (fun _ => rfl) fun j => ?_
    simp only [held, List.getElem?_append]
    split
    · rfl
    · rename_i hj
      rw [List.getElem?_eq_none (Nat.le_of_not_lt hj)]
      cases hlast : [Call.begin o][j - s.calls.length]? with
      | none => rfl
      | some c =>
        obtain rfl := List.mem_singleton.mp (List.mem_of_getElem? hlast)
        rfl
  · intro c hc r hr
    rcases hmem c hc with hold | rfl
    · exact h.room c hold r hr
    · cases hr
  · intro r k hk
    rw [h.tally r k hk]
    simp [countedIn, List.countP_append, Call.begin]

theorem grows_letGo (w : World) (held : Option Nat) : w.Grows (letGo w held) := by
  cases held with
  | none => exact .refl w
  | some r => exact .release w r

theorem count?_letGo (w : World) (held : Option Nat) (r : Nat) :
    (letGo w held).count? r = w.count? r := by
  cases held with
  | none => rfl
  | some x => exact World.count?_release w x r

theorem pools_letGo (w : World) (held : Option Nat) : (letGo w held).pools = w.pools := by
  cases held <;> rfl

theorem length_rows_letGo (w : World) (held : Option Nat) :
    (letGo w held).rows.length = w.rows.length := by
  cases held with
  | none => rfl
  | some r => exact World.length_rows_release w r

/-- A call that is given up lets go of its row, and its count stays. -/
theorem Sound.abandon (h : s.Sound given) {caller : Nat} {c : Call}
    (hc : s.calls[caller]? = some c) :
    Sound given { s with
      shared.world := letGo s.shared.world c.stage.held?
      calls := s.calls.set caller c.abandon } := by
  have hmem : c ∈ s.calls := List.mem_of_getElem? hc
  have hgrows := grows_letGo s.shared.world c.stage.held?
  refine ⟨h.layout.of_rows (pools_letGo ..) (length_rows_letGo ..), ?_, ?_, ?_, ?_, ?_, ?_⟩
  · intro d hd
    rcases of_mem_set hd with rfl | ⟨j, -, hj⟩
    · trivial
    · exact h.asks d (List.mem_of_getElem? hj)
  · intro d hd
    rcases of_mem_set hd with rfl | ⟨j, -, hj⟩
    · exact (h.placed c hmem).abandon.mono hgrows
    · exact (h.placed d (List.mem_of_getElem? hj)).mono hgrows
  · have hcaller : s.held caller = c.stage.held? := by simp [held, hc]
    cases hheld : c.stage.held? with
    | none =>
      refine h.heldBy.congr (fun _ => rfl) fun j => (held_set hc _ j).trans ?_
      split
      · rename_i hj
        rw [hj, hcaller, hheld]
        rfl
      · rfl
    | some r =>
      have hreleased := h.heldBy.release (hcaller.trans hheld)
      exact hreleased.congr (fun _ => rfl) (held_set hc _)
  · intro d hd r hr
    rcases of_mem_set hd with rfl | ⟨j, -, hj⟩
    · cases hr
    · rw [World.roomAt_eq, count?_letGo, ← World.roomAt_eq]
      exact h.room d (List.mem_of_getElem? hj) r hr
  · intro r k hk
    rw [count?_letGo] at hk
    have hset : (s.calls.set caller c.abandon).countP (fun c => c.counted = some r) +
        (if c.counted = some r then 1 else 0) =
          s.countedIn r + (if c.counted = some r then 1 else 0) :=
      countP_set_add (fun c => c.counted = some r) hc
    rw [Nat.add_right_cancel_iff] at hset
    rw [h.tally r k hk, ← hset]
    rfl
  · intro r hr
    exact h.fresh r (by rwa [length_rows_letGo] at hr)

/-- A step that counts nothing in a row leaves the calls that were counted in it as they are. -/
theorem countedAfter_eq_some_iff {note : Option Note} {before : Option Nat} {r : Nat}
    (hbefore : ∀ id x, note = some (.counted id x) → before = none)
    (hno : ∀ id, note ≠ some (.counted id r)) :
    countedAfter before note = some r ↔ before = some r := by
  rcases note with _ | _ | ⟨id, x⟩ | _ | _
  case some.counted =>
    have hx : x ≠ r := fun h => hno id (h ▸ rfl)
    simp [countedAfter, hbefore id x rfl, hx]
  all_goals rfl

/-- A step of a call keeps all that holds. What it counts is one activation in a row that it holds
and that has room for it. -/
theorem Sound.advance (h : s.Sound given) {caller : Nat} {ch : Choice} {c : Call} {shared : Shared}
    {stage : Stage c.operation.Result} {note : Option Note} (hc : s.calls[caller]? = some c)
    (hstep : c.stage.step ch caller s.shared = some (stage, shared, note)) :
    Sound given
      ⟨shared, s.calls.set caller (c.advance stage note), note.toList ++ s.history⟩ := by
  have hmem : c ∈ s.calls := List.mem_of_getElem? hc
  have hturn := h.turn hc hstep
  have hroom := h.room c hmem
  have hgrows := hturn.grows hroom
  have hplaced := (h.placed c hmem).advance (h.asks c hmem) h.layout hstep hgrows
  refine ⟨hturn.layout h.layout, ?_, ?_, ?_, ?_, ?_, ?_⟩
  · intro d hd
    rcases of_mem_set hd with rfl | ⟨j, -, hj⟩
    · exact (h.asks c hmem).of_steps (Stage.steps_of_step hstep)
    · exact h.asks d (List.mem_of_getElem? hj)
  · intro d hd
    rcases of_mem_set hd with rfl | ⟨j, -, hj⟩
    · exact hplaced
    · exact (h.placed d (List.mem_of_getElem? hj)).mono hgrows
  · have hcaller : s.held caller = c.stage.held? := by simp [held, hc]
    exact (hturn.heldBy h.heldBy hcaller (h.placed c hmem).rows_lt).congr (fun _ => rfl)
      (held_set hc _)
  · intro d hd r hr
    rcases of_mem_set hd with rfl | ⟨j, hne, hj⟩
    · exact hturn.roomAt_of_ready hroom r hr
    · refine hturn.roomAt_of_ne (h.room d (List.mem_of_getElem? hj) r hr) fun hcr => hne ?_
      exact h.eq_of_held hj hc (Stage.held?_of_ready? hr) hcr
  · intro r k hk
    have hnone : ∀ id x, note = some (.counted id x) → c.counted = none := by
      intro id x hnote
      obtain ⟨next, hdeciding⟩ := hturn.deciding_of_counted hnote
      exact (h.placed c hmem).counted_eq_none hdeciding
    have hset : countedIn ⟨shared, s.calls.set caller (c.advance stage note), []⟩ r +
        (if c.counted = some r then 1 else 0) =
          s.countedIn r + (if countedAfter c.counted note = some r then 1 else 0) :=
      countP_set_add (fun c => c.counted = some r) hc
    change k.activations.toInt = given r + (countedIn ⟨shared, _, []⟩ r : Nat)
    rcases hturn.tally hroom hk with ⟨hold, hno⟩ | ⟨id, old, rfl, hold, hplus⟩ | ⟨hge, hzero, hno⟩
    · rw [if_congr (countedAfter_eq_some_iff hnone hno) rfl rfl, Nat.add_right_cancel_iff] at hset
      rw [h.tally r k hold, hset]
    · have hrow := h.tally r old hold
      simp only [hnone id r rfl, countedAfter, reduceCtorEq, if_false, if_true] at hset
      omega
    · rw [if_congr (countedAfter_eq_some_iff hnone hno) rfl rfl, Nat.add_right_cancel_iff] at hset
      -- Nobody can have been counted in a row that there was not.
      have huncounted : s.countedIn r = 0 := by
        refine List.countP_eq_zero.mpr fun d hd => ?_
        intro hdr
        have := (h.placed d hd).counted_lt (of_decide_eq_true hdr)
        omega
      rw [hzero, hset, huncounted, h.fresh r hge]
      rfl
  · intro r hr
    exact h.fresh r (Nat.le_trans hgrows.length hr)

/-- Whatever happens next, all of this still holds. -/
theorem Sound.next (h : s.Sound given) {m : Move} (hm : s.next m = some s') :
    s'.Sound given := by
  cases happens_of_next hm with
  | begin o => exact h.begin o
  | advance hc hstep => exact h.advance hc hstep
  | abandon hc _ => exact h.abandon hc
  | failCache _ => exact ⟨h.layout, h.asks, h.placed, h.heldBy, h.room, h.tally, h.fresh⟩
  | failCodes _ => exact ⟨h.layout, h.asks, h.placed, h.heldBy, h.room, h.tally, h.fresh⟩

/-- Rows and their codes outlast every move. -/
theorem Sound.grows_next (h : s.Sound given) {m : Move} (hm : s.next m = some s') :
    s.shared.world.Grows s'.shared.world := by
  cases happens_of_next hm with
  | advance hc hstep => exact (h.turn hc hstep).grows (h.room _ (List.mem_of_getElem? hc))
  | abandon _ _ => exact grows_letGo ..
  | begin _ | failCache _ | failCodes _ => exact .refl _

/-- Whatever the schedule: the invariant holds after it, and rows only count up in it. -/
theorem Sound.run (h : s.Sound given) {ms : List Move} (hrun : s.run ms = some s') :
    s'.Sound given ∧ s.shared.world.Grows s'.shared.world := by
  refine run_induction hrun (P := fun t => t.Sound given ∧ s.shared.world.Grows t.shared.world)
    ⟨h, .refl _⟩ ?_
  rintro t m t' - ⟨hsound, hgrows⟩ hm
  exact ⟨hsound.next hm, hgrows.trans (hsound.grows_next hm)⟩

/-- Every call asks what its operation asks. -/
def Poses (s : System) : Prop := ∀ c ∈ s.calls, c.stage.Asks c.operation.Poses

/-- No move makes a call ask what its operation does not. -/
theorem Poses.next (h : s.Poses) {m : Move} (hm : s.next m = some s') : s'.Poses := by
  cases happens_of_next hm with
  | begin o =>
    intro c hc
    rcases List.mem_append.mp hc with hold | hnew
    · exact h c hold
    · obtain rfl := List.mem_singleton.mp hnew
      exact o.action_poses
  | advance hc hstep =>
    intro d hd
    rcases of_mem_set hd with rfl | ⟨j, -, hj⟩
    · exact (h _ (List.mem_of_getElem? hc)).of_steps (Stage.steps_of_step hstep)
    · exact h d (List.mem_of_getElem? hj)
  | abandon _ _ =>
    intro d hd
    rcases of_mem_set hd with rfl | ⟨j, -, hj⟩
    · trivial
    · exact h d (List.mem_of_getElem? hj)
  | failCache _ | failCodes _ => exact h

theorem poses_start (store : Store) (cache : Cache) : (start store cache).Poses := by
  intro c hc
  cases hc

/-- What holds at first and is kept in every move, given the invariant before it and what is still
to come after it, holds in the end. -/
theorem Sound.induction_along (h : s.Sound given) (hposes : s.Poses) {ms : List Move}
    (hrun : s.run ms = some s') {P : System → Prop} (hs : P s)
    (hnext : ∀ t m t' rest, t.Sound given → t.Poses → P t → t.next m = some t' →
      t'.run rest = some s' → P t') : P s' := by
  induction ms generalizing s with
  | nil =>
    obtain rfl := Option.some.inj hrun
    exact hs
  | cons m ms ih =>
    obtain ⟨t, ht, hrest⟩ := Option.bind_eq_some_iff.mp hrun
    exact ih (h.next ht) (hposes.next ht) hrest (hnext s m t ms h hposes hs ht hrest)

/-! ### Counts within bounds -/

/-- A store whose counts are within bounds gives a world in which they are. -/
theorem bounded_start {store : Store} (cache : Cache)
    (h : ∀ p ∈ store.promotions, ∀ c ∈ p.codes,
      0 ≤ c.activations.toInt ∧ c.activations.toInt ≤ c.maxCount.toInt) :
    (start store cache).shared.world.Bounded := by
  intro r k hk
  obtain ⟨p, hp, hkp⟩ := World.mem_codes_of_count?_ofStore hk
  exact h p hp k hkp

/-- No move counts a row beyond its bounds. -/
theorem Sound.bounded_next (h : s.Sound given) (hbounded : s.shared.world.Bounded) {m : Move}
    (hm : s.next m = some s') : s'.shared.world.Bounded := by
  cases happens_of_next hm with
  | advance hc hstep =>
    exact (h.turn hc hstep).bounded hbounded (h.room _ (List.mem_of_getElem? hc))
  | abandon _ _ =>
    intro r k hk
    exact hbounded r k (by rwa [count?_letGo] at hk)
  | begin _ | failCache _ | failCodes _ => exact hbounded

/-- Counts that are within bounds at first stay so. -/
theorem Sound.bounded_run (h : s.Sound given) (hbounded : s.shared.world.Bounded) {ms : List Move}
    (hrun : s.run ms = some s') : s'.shared.world.Bounded := by
  have hboth : s'.Sound given ∧ s'.shared.world.Bounded := by
    refine run_induction hrun (P := fun t => t.Sound given ∧ t.shared.world.Bounded)
      ⟨h, hbounded⟩ ?_
    rintro t m t' - ⟨hsound, ht⟩ hm
    exact ⟨hsound.next hm, hsound.bounded_next ht hm⟩
  exact hboth.2

end System

end Promotions.Memory
