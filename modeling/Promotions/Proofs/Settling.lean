import Promotions.Proofs.Provenance

/-!
Runs in which nothing goes wrong. A call that has written to a promotion asks at once that its text
be declared stale. So as long as no operation of the cache fails and no call is given up, a write
that is not settled is one whose call is just about to settle it, and when all calls have returned
none is left.
-/

namespace Promotions

/-! ### Dialogues that settle what they write -/

def Ask.Wrote (id : Uuid) : (q : Ask) → q.Answer → Prop
  | .store (.update x _ _), a => x = id ∧ a.isOk = true
  | .store (.delete x _), a => x = id ∧ a.isOk = true
  | .store (.activate x), a => x = id ∧ a.isOk = true
  | _, _ => False

def Operation.changes : Operation → Bool
  | update _ _ _ | delete _ _ | activate _ => true
  | create _ _ | list _ _ _ _ | count _ _ | get _ _ => false

theorem Operation.changes_of_wrote {o : Operation} {q : Ask} (hq : o.Poses q) {id : Uuid}
    {a : q.Answer} (hwrote : q.Wrote id a) : o.changes = true := by
  match q with
  | .store (.update _ _ _) =>
    obtain ⟨r, rfl, -⟩ := hq
    rfl
  | .store (.delete _ _) | .store (.activate _) =>
    obtain rfl := hq
    rfl
  | .mint | .companyName _ | .cache _ | .store (.create _ _ _ _) | .store (.find _)
  | .store (.list _ _ _) | .store (.count _) => cases hwrote

namespace Action

variable {α : Type} {d : Action α}

def Invalidates (id : Uuid) : Action α → Prop
  | .ask (.cache (.invalidate key)) _ => key = detailKey id
  | _ => False

/-- After every write to a promotion its text is declared stale at once. -/
def Settles : Action α → Prop
  | .done _ => True
  | .ask q next => ∀ a, Settles (next a) ∧ ∀ id, q.Wrote id a → Invalidates id (next a)

/-- What writes nothing has nothing to settle. -/
theorem Settles.of_asks (h : d.Asks fun q => ∀ id a, ¬ q.Wrote id a) : Settles d := by
  induction d with
  | done a => trivial
  | ask q next ih => exact fun a => ⟨ih a (h.2 a), fun id hwrote => absurd hwrote (h.1 id a)⟩

end Action

theorem Service.settle_settles {α : Type} (id : Uuid) (answer : Except Failure α) :
    Action.Settles (settle id answer) ∧
      ∀ x, id = x ∧ answer.isOk = true → Action.Invalidates x (settle id answer) := by
  cases answer with
  | error f => exact ⟨trivial, fun x h => by cases h.2⟩
  | ok a => exact ⟨fun _ => ⟨trivial, fun _ h => h.elim⟩, fun x h => h.1 ▸ rfl⟩

/-- Every operation settles what it writes. -/
theorem Operation.action_settles (o : Operation) : Action.Settles o.action := by
  have hothers (ho : o.changes = false) : Action.Settles o.action :=
    .of_asks (o.action_poses.imp fun q hq id a hwrote => by
      rw [changes_of_wrote hq hwrote] at ho
      cases ho)
  cases o with
  | create company r => exact hothers rfl
  | list company countries page key => exact hothers rfl
  | count company countries => exact hothers rfl
  | get id company => exact hothers rfl
  | update id company r =>
    simp only [action, Service.update]
    cases r.changes with
    | error v => trivial
    | ok content => exact fun answer => Service.settle_settles id answer
  | delete id company => exact fun answer => Service.settle_settles id answer
  | activate id => exact fun answer => Service.settle_settles id answer

namespace Memory

/-! ### Calls that settle what they write -/

namespace Stage

variable {α : Type} {ch : Choice} {caller : Nat} {s s' : Shared} {st st' : Stage α}
  {note : Option Note} {id : Uuid}

/-- A call declares the text of a promotion stale at once after every write to it. -/
def Settles : Stage α → Prop
  | asking d => Action.Settles d
  | activating id _ next =>
    ∀ a, Action.Settles (next a) ∧ ∀ x, id = x ∧ a.isOk = true → Action.Invalidates x (next a)
  | copying _ next => ∀ ps, Action.Settles (next ps)
  | abandoned => True

/-- A call has written to a promotion and is just about to declare its text stale. -/
def Owes (id : Uuid) : Stage α → Prop
  | asking d => Action.Invalidates id d
  | activating x (.releasing _ a) _ | activating x (.finished a) _ => x = id ∧ a.isOk = true
  | _ => False

/-- A call that settles what it writes goes on to do so. -/
theorem Settles.of_steps (h : st.Settles) (hs : Steps ch caller s st st' s' note) :
    st'.Settles := by
  cases hs with
  | asked =>
    rename_i q next
    have hnext : ∀ a, Action.Settles (next a) := fun a => (h a).1
    match q with
    | .mint | .companyName _ | .cache _ | .store (.count _) | .store (.update _ _ _)
    | .store (.delete _ _) => exact hnext _
    | .store (.create _ _ _ _) =>
      simp only [ask]
      split <;> exact hnext _
    | .store (.find _) =>
      simp only [ask]
      split
      · exact hnext _
      · exact fun ps => hnext _
    | .store (.list _ _ _) => exact fun ps => hnext _
    | .store (.activate _) => exact h
  | activated _ => exact (h _).1
  | activates _ => exact h
  | copied _ => exact h _
  | copies _ => exact h

/-- A call that is about to declare a text stale goes on to be, or has done so, as long as the cache
does not fail. -/
theorem Owes.of_steps (h : st.Owes id) (hsettles : st.Settles) (hworking : s.cache.failing = false)
    (hs : Steps ch caller s st st' s' note) :
    st'.Owes id ∨ note = some (.staled (detailKey id)) := by
  cases hs with
  | asked =>
    rename_i q next
    match q with
    | .cache (.invalidate key) =>
      obtain rfl : key = detailKey id := h
      right
      simp only [ask, Cache.answer, hworking]
      rfl
    | .mint | .companyName _ | .store _ | .cache (.find _) | .cache (.generation _)
    | .cache (.fill _ _ _) => exact h.elim
  | activated hresult =>
    obtain rfl := Phase.eq_finished_of_result? hresult
    exact Or.inl ((hsettles _).2 id h)
  | activates hs =>
    cases hs with
    | released => exact Or.inl h
    | missing _ | captured _ | passed _ | tried _ | probedRoom _ | probedFull _ | again | waited _
    | obtainedRoom _ | obtainedFull _ | exhausted | paused | rejected _ | counted _ => exact h.elim
  | copied _ | copies _ => exact h.elim

/-- A call that has just written to a promotion is about to declare its text stale, save for one
that creates a promotion under the identifier of another one. -/
theorem owes_of_write {o : Operation} (hasks : st.Asks o.Poses) (hsettles : st.Settles)
    (hs : Steps ch caller s st st' s' note) {n : Note} (hnote : note = some n)
    (hwrites : n.Writes id) : st'.Owes id ∨ ∃ company r, o = .create company r := by
  cases hs with
  | asked =>
    rename_i q next
    match q with
    | .mint | .companyName _ | .store (.count _) | .store (.list _ _ _) | .store (.activate _)
    | .cache (.find _) | .cache (.generation _) | .cache (.fill _ _ _) => cases hnote
    | .cache (.invalidate key) =>
      simp only [ask, Cache.answer] at hnote
      split at hnote <;> cases hnote
      exact hwrites.elim
    | .store (.create _ _ _ _) =>
      obtain ⟨company, r, ho, -⟩ := hasks.1
      exact Or.inr ⟨company, r, ho⟩
    | .store (.find _) =>
      simp only [ask] at hnote
      split at hnote <;> cases hnote
    | .store (.update x company content) =>
      simp only [ask] at hnote ⊢
      cases hanswer : (s.world.update x company content).1 with
      | error f =>
        rw [hanswer] at hnote
        cases hnote
      | ok u =>
        rw [hanswer] at hnote
        cases hnote
        exact Or.inl ((hsettles (.ok u)).2 id ⟨hwrites, rfl⟩)
    | .store (.delete x company) =>
      simp only [ask] at hnote ⊢
      cases hanswer : (s.world.delete x company).1 with
      | error f =>
        rw [hanswer] at hnote
        cases hnote
      | ok u =>
        rw [hanswer] at hnote
        cases hnote
        exact Or.inl ((hsettles (.ok u)).2 id ⟨hwrites, rfl⟩)
  | activated _ | copied _ | copies _ => cases hnote
  | activates hs =>
    cases hs with
    | counted _ =>
      cases hnote
      exact Or.inl ⟨hwrites, rfl⟩
    | captured _ =>
      cases hnote
      exact hwrites.elim
    | @released r a => cases a <;> cases hnote
    | missing _ | passed _ | tried _ | probedRoom _ | probedFull _ | again | waited _
    | obtainedRoom _ | obtainedFull _ | exhausted | paused | rejected _ => cases hnote

end Stage

/-! ### Runs in which nothing goes wrong -/

theorem CacheTurn.failing_eq {α : Type} {c c' : Cache} {st : Stage α} {note : Option Note}
    (t : CacheTurn c st note c') : c'.failing = c.failing := by
  cases t <;> rfl

/-- Whether nothing goes wrong in a move: the cache does not begin to fail, and no call is given
up. -/
def Move.benign : Move → Bool
  | .abandon _ | .failCache true => false
  | _ => true

namespace System

variable {g : Nat → Int} {s s' : System}

/-- The cache works, and no write is left that is not settled. -/
structure Healthy (s : System) : Prop where
  working : s.shared.cache.failing = false
  settled : ∀ id, ¬ Unsettled id s.history

/-- The cache works, and every write that is not settled is about to be. -/
structure Prompt (s : System) : Prop where
  working : s.shared.cache.failing = false
  settles : ∀ c ∈ s.calls, c.stage.Settles
  owed : ∀ id, Unsettled id s.history → ∃ c ∈ s.calls, c.stage.Owes id

/-- After a step of a call, some call is about to settle each write that is not settled. -/
theorem Prompt.owed_advance (h : s.Prompt) (htraced : Traced s s) (hposes : s.Poses)
    {caller : Nat} {ch : Choice} {c : Call} {shared : Shared} {stage : Stage c.operation.Result}
    {note : Option Note} (hc : s.calls[caller]? = some c)
    (hstep : c.stage.step ch caller s.shared = some (stage, shared, note))
    (hfresh : IdsFresh ⟨shared, s.calls.set caller (c.advance stage note),
      note.toList ++ s.history⟩)
    {id : Uuid} (hunsettled : Unsettled id (note.toList ++ s.history)) :
    ∃ d ∈ s.calls.set caller (c.advance stage note), d.stage.Owes id := by
  have hmem : c ∈ s.calls := List.mem_of_getElem? hc
  have hs := Stage.steps_of_step hstep
  have hlt := (List.getElem?_eq_some_iff.mp hc).1
  have hlater : (s.calls.set caller (c.advance stage note))[caller]? =
      some (c.advance stage note) := List.getElem?_set_self hlt
  have hself (howes : stage.Owes id) :
      ∃ d ∈ s.calls.set caller (c.advance stage note), d.stage.Owes id :=
    ⟨_, List.mem_of_getElem? hlater, howes⟩
  have hbefore (hunsettled : Unsettled id s.history)
      (hnote : note ≠ some (.staled (detailKey id))) :
      ∃ d ∈ s.calls.set caller (c.advance stage note), d.stage.Owes id := by
    obtain ⟨d, hd, howes⟩ := h.owed id hunsettled
    obtain ⟨j, hj⟩ := List.mem_iff_getElem?.mp hd
    by_cases hjc : caller = j
    · subst hjc
      obtain rfl := Option.some.inj (hj.symm.trans hc)
      exact hself ((howes.of_steps (h.settles d hd) h.working hs).resolve_right hnote)
    · exact ⟨d, List.mem_of_getElem? ((List.getElem?_set_ne hjc).trans hj), howes⟩
  cases hnote : note with
  | none =>
    subst hnote
    exact hbefore hunsettled (by simp)
  | some n =>
    subst hnote
    rcases unsettled_cons.mp hunsettled with hwrites | ⟨hn, hunsettled⟩
    · rcases Stage.owes_of_write (hposes c hmem) (h.settles c hmem) hs rfl hwrites with
        howes | ⟨company, r, ho⟩
      · exact hself howes
      · -- A promotion is never created under the identifier of another one.
        rcases (htraced.creates c hmem).inserted hstep ho with
          ⟨-, hnone⟩ | ⟨x, now, draft, -, -, hchanged, hcreated⟩
        · cases hnone
        · have hnone := htraced.find?_eq_none_of_created hfresh (next_advance hc hstep) hc
            (Call.returned?_eq_none_of_step hstep) hlater hcreated.created?
          rw [store, World.find?_toStore, Option.map_eq_none_iff] at hnone
          rw [hnone] at hchanged
          cases hchanged
    · exact hbefore hunsettled fun heq => hn (Option.some.inj heq)

/-- In a move in which nothing goes wrong, no write is left behind. -/
theorem Prompt.next (h : s.Prompt) (htraced : Traced s s) (hposes : s.Poses) {m : Move}
    (hm : s.next m = some s') (hfresh : s'.IdsFresh) (hbenign : m.benign = true) : s'.Prompt := by
  cases happens_of_next hm with
  | begin o =>
    refine ⟨h.working, fun c hc => ?_, fun id hunsettled => ?_⟩
    · rcases List.mem_append.mp hc with hold | hnew
      · exact h.settles c hold
      · obtain rfl := List.mem_singleton.mp hnew
        exact o.action_settles
    · obtain ⟨c, hc, howes⟩ := h.owed id hunsettled
      exact ⟨c, List.mem_append_left _ hc, howes⟩
  | advance hc hstep =>
    have hs := Stage.steps_of_step hstep
    refine ⟨(CacheTurn.of_steps hs).failing_eq.trans h.working, fun d hd => ?_,
      fun id => h.owed_advance htraced hposes hc hstep hfresh⟩
    rcases of_mem_set hd with rfl | ⟨j, -, hj⟩
    · exact (h.settles _ (List.mem_of_getElem? hc)).of_steps hs
    · exact h.settles d (List.mem_of_getElem? hj)
  | abandon _ _ => cases hbenign
  | failCache failing =>
    cases failing with
    | true => cases hbenign
    | false => exact ⟨rfl, h.settles, h.owed⟩
  | failCodes _ => exact ⟨h.working, h.settles, h.owed⟩

theorem exists_of_run_snoc {ms : List Move} {m : Move} (h : s.run (ms ++ [m]) = some s') :
    ∃ t, s.run ms = some t ∧ t.next m = some s' := by
  rw [run, List.foldlM_append] at h
  obtain ⟨t, ht, h⟩ := Option.bind_eq_some_iff.mp h
  obtain ⟨u, hu, h⟩ := Option.bind_eq_some_iff.mp h
  obtain rfl := Option.some.inj h
  exact ⟨t, ht, hu⟩

/-- In a run in which nothing goes wrong, every write that is not settled is about to be. -/
theorem prompt_run {cache : Cache} (hempty : cache.entries = [])
    (hworking : cache.failing = false) {ms : List Move} (hrun : (start {} cache).run ms = some s)
    (hfresh : s.IdsFresh) (hbenign : ∀ m ∈ ms, m.benign = true) : s.Prompt := by
  induction ms using List.reverseRecOn generalizing s with
  | nil =>
    obtain rfl := Option.some.inj hrun
    refine ⟨hworking, fun c hc => ?_, fun id hunsettled => ?_⟩
    · cases hc
    · obtain ⟨later, write, earlier, heq, -⟩ := hunsettled
      simp [start] at heq
  | append_singleton ms m ih =>
    obtain ⟨t, ht, hm⟩ := exists_of_run_snoc hrun
    have hposes : t.Poses := run_induction ht (poses_start {} cache) fun _ _ _ _ h hm => h.next hm
    have hlater : t.run [m] = some s := (run_cons hm).trans rfl
    have hprompt := ih ht (hfresh.of_run hlater) fun x hx => hbenign x (List.mem_append_left _ hx)
    exact hprompt.next (traced_run hempty ht) hposes hm hfresh (hbenign m (by simp))

/-- In a run in which nothing goes wrong, all writes are settled as soon as all calls have
returned. -/
theorem healthy_of_run {cache : Cache} (hempty : cache.entries = [])
    (hworking : cache.failing = false) {ms : List Move} (hrun : (start {} cache).run ms = some s)
    (hfresh : s.IdsFresh) (hbenign : ∀ m ∈ ms, m.benign = true)
    (hreturned : ∀ c ∈ s.calls, c.returned?.isSome = true) : s.Healthy := by
  have h := prompt_run hempty hworking hrun hfresh hbenign
  refine ⟨h.working, fun id hunsettled => ?_⟩
  obtain ⟨c, hc, howes⟩ := h.owed id hunsettled
  obtain ⟨⟨o, a⟩, ha⟩ := Option.isSome_iff_exists.mp (hreturned c hc)
  obtain ⟨captured, counted, rfl⟩ := Call.eq_of_returned? ha
  exact howes

end System

end Memory

end Promotions
