import Promotions.Proofs.Securing
import Promotions.Supply

/-!
Redemption under row locks. However the steps of sessions that activate and delete are interleaved,
every session stands somewhere, what it stands on holds at the server, and it has committed what its
standing says. One step of one session preserves this, since it leaves alone what the others have
locked; so it holds throughout. From it follow the bounds of the counts, and that sessions with a
result and committed changes go together one by one.
-/

namespace Promotions.Postgres

/-! ### Steps of a session -/

/-- Whoever may still ask for something has not committed anything. -/
theorem Standing.MayAsk.committed_eq {h : Standing} {q : Question} (hask : h.MayAsk q) :
    h.committed = [] := by
  cases h with
  | kept c =>
    cases q with
    | gate id code => cases hask
    | send s => cases s <;> cases hask
  | _ => rfl

/-- Once a transaction can only be rolled back, this does not change any more. -/
theorem Standing.Moves.of_failed {t : Tables} {q : Question} {r : q.Answer} {h : Standing}
    (hm : Standing.failed.Moves t q r h) : h = .failed := by
  cases hm <;> rfl

/-- A session that stands somewhere, and can go through with its dialogue from there. -/
structure Session.At (t : Tables) (who : Nat) (sv : Server) (s : Session) (h : Standing) :
    Prop where
  allows : h.Allows t (Standing.Ended (s.task.Warrants t)) s.left
  stands : h.Stands who sv s.connection
  refused : s.refused = true → h = .failed

namespace Session.At

variable {t : Tables} {who : Nat} {sv sv' : Server} {s s' : Session} {h : Standing}

theorem begin (t : Tables) (who : Nat) (sv : Server) (task : Task) :
    (Session.begin task).At t who sv .idle :=
  ⟨task.allows_exchange t, rfl, nofun⟩

/-- Where a session stands stays right as long as its locks are kept. -/
theorem mono (hs : s.At t who sv h) (hk : Server.Keeps who sv sv') : s.At t who sv' h :=
  ⟨hs.allows, hs.stands.mono hk, hs.refused⟩

/-- A session that takes a step has committed nothing before it, and stands somewhere after it. -/
theorem step {changes : List Change} {turn : Turn} (hs : s.At t who sv h)
    (ht : t.Since changes sv.tables) (hstep : s.step who turn sv = some (s', sv')) :
    h.committed = [] ∧ ∃ h', s'.At t who sv' h' ∧ sv.Effect who sv' h'.committed := by
  obtain ⟨task, left, c, refused⟩ := s
  obtain ⟨hallows, hstands, hrefused⟩ := hs
  cases left with
  | done a => cases hstep
  | ask q next =>
    obtain ⟨hask, hnext⟩ := hallows
    refine ⟨hask.committed_eq, ?_⟩
    cases q with
    | gate id code =>
      cases hstep
      cases h with
      | locked number =>
        cases hturn : turn.refuses with
        | false =>
          refine ⟨.locked number, ⟨hnext _ _ .accepted, hstands, fun hr => ?_⟩, .same⟩
          exact hrefused (by simpa using hr)
        | true => exact ⟨.failed, ⟨hnext _ _ .refused, hstands.pending, fun _ => rfl⟩, .same⟩
      | _ => cases hask
    | send st =>
      have hfailed (cause : StorageCause) := hnext (.error cause) _ (.failed hask.committed_eq)
      simp only [Session.step] at hstep
      split at hstep
      · cases hstep
        exact ⟨.failed, ⟨hfailed _, nofun, fun _ => rfl⟩, .letGo⟩
      · cases hstep
        exact ⟨.failed, ⟨hfailed _, hstands.pending, fun _ => rfl⟩, .same⟩
      · obtain ⟨⟨r, sv₁, c₁⟩, ha, hstep⟩ := Option.map_eq_some_iff.mp hstep
        obtain ⟨h', hfollows, hstands', heffect⟩ := hstands.answered ht hask ha
        cases r with
        | none =>
          cases hstep
          obtain rfl : h' = h := hfollows
          exact ⟨h', ⟨⟨hask, hnext⟩, hstands', hrefused⟩, heffect⟩
        | some r =>
          cases hstep
          refine ⟨h', ⟨hnext _ _ hfollows, hstands', fun hr => ?_⟩, heffect⟩
          obtain rfl := hrefused hr
          exact hfollows.of_failed

end Session.At

/-! ### All sessions together -/

theorem Server.Effect.committedBy_self {sv sv' : Server} {who : Nat} {changes : List Change}
    (h : sv.Effect who sv' changes) : sv'.committedBy who = changes ++ sv.committedBy who := by
  simp [committedBy, h.history_eq, List.filter_append, List.filter_map, Function.comp_def]

theorem Server.Effect.committedBy_of_ne {sv sv' : Server} {who i : Nat} {changes : List Change}
    (h : sv.Effect who sv' changes) (hi : i ≠ who) : sv'.committedBy i = sv.committedBy i := by
  simp [committedBy, h.history_eq, List.filter_append, List.filter_map, Function.comp_def,
    hi.symm]

def Server.Consistent (t : Tables) (sv : Server) : Prop :=
  t.Becomes (sv.history.map (·.2)) sv.tables

/-- The committed tables stay consistent with the history in every step. -/
theorem Server.Consistent.of_effect {t : Tables} {sv sv' : Server} {who : Nat}
    {changes : List Change} (h : sv.Consistent t) (heffect : sv.Effect who sv' changes) :
    sv'.Consistent t := by
  unfold Consistent
  rw [heffect.tables_eq, heffect.history_eq]
  rcases heffect.cases_changes with rfl | ⟨c, rfl, hsecures⟩
  · exact h
  · exact .change h hsecures.admits

namespace Traffic

/-- What holds at any moment, when the tables were these in the beginning. -/
structure Sound (t : Tables) (x : Traffic) : Prop where
  consistent : x.server.Consistent t
  known : ∀ entry ∈ x.server.history, entry.1 < x.sessions.length
  session : ∀ (i : Nat) (s : Session), x.sessions[i]? = some s →
    ∃ h, s.At t i x.server h ∧ x.server.committedBy i = h.committed

variable {t : Tables} {x x' : Traffic}

theorem sound_start (t : Tables) : Sound t (start t) :=
  ⟨.start, nofun, nofun⟩

/-- A session that begins has done nothing yet. -/
theorem Sound.begin (h : Sound t x) (task : Task) :
    Sound t { x with sessions := x.sessions ++ [.begin task] } := by
  constructor
  case consistent => exact h.consistent
  case known =>
    intro entry hentry
    have hknown := h.known entry hentry
    simp only [List.length_append, List.length_singleton]
    omega
  case session =>
    intro i s hs
    rcases Nat.lt_or_ge i x.sessions.length with hi | hi
    · rw [List.getElem?_append_left hi] at hs
      exact h.session i s hs
    · -- A number that was not given away yet has committed nothing.
      have hnothing : x.server.committedBy i = [] := by
        simp only [Server.committedBy, List.map_eq_nil_iff, List.filter_eq_nil_iff,
          decide_eq_true_eq]
        intro entry hentry
        have hknown := h.known entry hentry
        omega
      rw [List.getElem?_append_right hi] at hs
      obtain ⟨rfl⟩ := List.mem_singleton.mp (List.mem_of_getElem? hs)
      exact ⟨.idle, .begin t i x.server task, hnothing⟩

/-- The session that takes a step stands somewhere after it, and the others where they did. -/
theorem Sound.advance (h : Sound t x) {who : Nat} {turn : Turn} {s s' : Session} {sv' : Server}
    (hs : x.sessions[who]? = some s) (hstep : s.step who turn x.server = some (s', sv')) :
    Sound t ⟨sv', x.sessions.set who s'⟩ := by
  obtain ⟨st, hat, hcommitted⟩ := h.session who s hs
  obtain ⟨hfresh, st', hat', heffect⟩ := hat.step (Tables.Becomes.since h.consistent) hstep
  have hwho : who < x.sessions.length := (List.getElem?_eq_some_iff.mp hs).1
  constructor
  case consistent => exact h.consistent.of_effect heffect
  case known =>
    intro entry hentry
    rw [List.length_set]
    rcases List.mem_append.mp (heffect.history_eq ▸ hentry) with hnew | hold
    · obtain ⟨c, -, rfl⟩ := List.mem_map.mp hnew
      exact hwho
    · exact h.known entry hold
  case session =>
    intro i s₁ hs₁
    by_cases hi : i = who
    · subst hi
      rw [List.getElem?_set_self hwho] at hs₁
      cases hs₁
      refine ⟨st', hat', ?_⟩
      rw [heffect.committedBy_self, hcommitted, hfresh, List.append_nil]
    · rw [List.getElem?_set_ne (Ne.symm hi)] at hs₁
      obtain ⟨st₁, hat₁, hcommitted₁⟩ := h.session i s₁ hs₁
      exact ⟨st₁, hat₁.mono (heffect.keeps hi), heffect.committedBy_of_ne hi ▸ hcommitted₁⟩

/-- Whatever happens next, all of this still holds. -/
theorem Sound.next {m : Move} (h : Sound t x) (hnext : x.next m = some x') : Sound t x' := by
  cases m with
  | begin task =>
    cases hnext
    exact h.begin task
  | advance who turn =>
    simp only [Traffic.next, Option.bind_eq_bind, Option.bind_eq_some_iff] at hnext
    obtain ⟨s, hs, ⟨s', sv'⟩, hstep, hnext⟩ := hnext
    cases hnext
    exact h.advance hs hstep

/-- All of this holds after any schedule. -/
theorem Sound.run {ms : List Move} (h : Sound t x) (hrun : x.run ms = some x') : Sound t x' := by
  induction ms generalizing x with
  | nil =>
    cases hrun
    exact h
  | cons m ms ih =>
    obtain ⟨x₁, hnext, hrest⟩ := Option.bind_eq_some_iff.mp hrun
    exact ih (h.next hnext) hrest

/-! ### Redemptions are exact -/

/-- What sessions that activate and delete at the same time have made of the tables. -/
structure Exact (t : Tables) (x : Traffic) : Prop where
  /-- No code is handed out more often than it may be, neither in what is committed nor in what a
  transaction sees that is still open. -/
  bounded : x.server.tables.Bounded ∧ ∀ s ∈ x.sessions, ∀ changes,
    s.connection.changes = some changes → (x.server.tables.applyAll changes).Bounded
  /-- What is committed has come about by the changes in the history, each of which has found what
  it is about: a code that had activations left, or a promotion. -/
  replayed : t.Becomes (x.server.history.map (·.2)) x.server.tables
  /-- A code has as many activations more than in the beginning as there are redemptions of it in
  the history; but for them it has stayed the same. -/
  counted : ∀ row ∈ x.server.tables.codes, ∃ old ∈ t.codes, old.number = row.number ∧
    old.promotion = row.promotion ∧ old.count.code = row.count.code ∧
    old.count.maxCount = row.count.maxCount ∧
    row.count.activations.toInt = old.count.activations.toInt +
      (x.server.history.map (·.2)).count (.redeem row.number)
  /-- Who has got a result has committed one change, which warrants the result. -/
  granted : ∀ (i : Nat) (s : Session) (a : s.task.Result), x.sessions[i]? = some s →
    s.result? = some (.ok a) → ∃ c, x.server.committedBy i = [c] ∧ s.task.Warrants t c a
  /-- Who has not got one, or not yet, has committed nothing. -/
  otherwise : ∀ (i : Nat) (s : Session), x.sessions[i]? = some s →
    (∀ a, s.result? ≠ some (.ok a)) → x.server.committedBy i = []
  /-- Nobody else has committed anything. -/
  known : ∀ entry ∈ x.server.history, ∃ s, x.sessions[entry.1]? = some s
  /-- Whom the gate has refused gets no result. -/
  refused : ∀ s ∈ x.sessions, s.refused = true → ∀ a, s.result? ≠ some (.ok a)
  /-- Nobody finds that a code has changed although it was locked: it is redeemed as soon as this is
  asked for, and no session ends with an internal failure. -/
  undisturbed : ∀ (i : Nat) (s : Session), x.sessions[i]? = some s →
    (∀ number next, s.left = .ask (.send (.redeemCode number)) next →
      ∃ sv c, x.server.answer i s.connection (.redeemCode number) = some (some (1 : Nat), sv, c)) ∧
    ∀ detail, s.result? ≠ some (.error (.internal detail))

end Traffic

/-- Where a session stands that has come to its end. -/
theorem Session.At.ended {t : Tables} {who : Nat} {sv : Server} {s : Session} {h : Standing}
    {a : Except Failure s.task.Result} (hs : s.At t who sv h) (ha : s.result? = some a) :
    h.Ended (s.task.Warrants t) a := by
  obtain ⟨task, left, c, refused⟩ := s
  cases left with
  | done b =>
    cases ha
    exact hs.allows
  | ask q next => cases ha

/-- What a session that stands at its end has committed goes with its result. -/
theorem Standing.Ended.cases {α : Type} {warrants : Change → α → Prop} {h : Standing}
    {a : Except Failure α} (hended : h.Ended warrants a) :
    (∃ c b, h = .kept c ∧ a = .ok b ∧ warrants c b) ∨
      ∃ f, h = .failed ∧ a = .error f ∧ Outer f := by
  cases h with
  | kept c =>
    cases a with
    | ok b => exact Or.inl ⟨c, b, rfl, rfl, hended⟩
    | error f => cases hended
  | failed =>
    cases a with
    | ok b => cases hended
    | error f => exact Or.inr ⟨f, rfl, rfl, hended⟩
  | _ => cases hended

namespace Session.At

variable {t : Tables} {who : Nat} {sv : Server} {s : Session} {h : Standing}

/-- A session with a result stands where its change is committed. -/
theorem warrants {a : s.task.Result} (hs : s.At t who sv h) (ha : s.result? = some (.ok a)) :
    ∃ c, h = .kept c ∧ s.task.Warrants t c a := by
  rcases (hs.ended ha).cases with ⟨c, b, hkept, hb, hwarrants⟩ | ⟨f, -, hf, -⟩
  · cases hb
    exact ⟨c, hkept, hwarrants⟩
  · cases hf

/-- A session whose change is committed has a result. -/
theorem exists_result {c : Change} (hs : s.At t who sv (.kept c)) :
    ∃ a, s.result? = some (.ok a) := by
  obtain ⟨task, left, connection, refused⟩ := s
  obtain ⟨hallows, -, -⟩ := hs
  cases left with
  | ask q next => cases hallows.1.committed_eq
  | done r =>
    cases r with
    | ok a => exact ⟨a, rfl⟩
    | error f => cases hallows

/-- A session that has not come to a result has committed nothing, and neither has one that
failed. -/
theorem committed_eq_nil (hs : s.At t who sv h) (ha : ∀ a, s.result? ≠ some (.ok a)) :
    h.committed = [] := by
  cases h with
  | kept c =>
    obtain ⟨a, hresult⟩ := hs.exists_result
    exact absurd hresult (ha a)
  | _ => rfl

/-- A session fails for an outer cause only: no code changes while it is locked. -/
theorem outer {f : Failure} (hs : s.At t who sv h) (hf : s.result? = some (.error f)) :
    Outer f := by
  rcases (hs.ended hf).cases with ⟨c, b, -, hb, -⟩ | ⟨g, -, hg, houter⟩
  · cases hb
  · cases hg
    exact houter

/-- A session that redeems a code has locked it. -/
theorem locked {number : Int}
    {next : Except StorageCause Nat → Exchange (Except Failure s.task.Result)}
    (hs : s.At t who sv h) (hleft : s.left = .ask (.send (.redeemCode number)) next) :
    s.connection.changes = some [] ∧ sv.Secures who (.redeem number) := by
  have hask : h.MayAsk (.send (.redeemCode number)) := by
    have hallows := hs.allows
    rw [hleft] at hallows
    exact hallows.1
  cases h with
  | locked n =>
    obtain rfl : number = n := hask
    exact hs.stands
  | _ => cases hask

end Session.At

/-- Whatever sessions activate and delete, in whatever order their statements come, whatever the
gate decides and whichever statements fail, redemptions are exact. -/
theorem Traffic.redemption_is_exact {t : Tables} {ms : List Traffic.Move} {x : Traffic}
    (ht : t.Bounded) (hrun : (start t).run ms = some x) : x.Exact t := by
  have hsound : Sound t x := (sound_start t).run hrun
  have hreplayed : t.Becomes (x.server.history.map (·.2)) x.server.tables := hsound.consistent
  have hbounded : x.server.tables.Bounded := hreplayed.bounded ht
  constructor
  case replayed => exact hreplayed
  case counted => exact hreplayed.since.codes
  case bounded =>
    refine ⟨hbounded, fun s hs changes hchanges => ?_⟩
    obtain ⟨i, hi⟩ := List.mem_iff_getElem?.mp hs
    obtain ⟨h, hat, -⟩ := hsound.session i s hi
    rcases hat.stands.pending changes hchanges with rfl | ⟨c, rfl, hsecures⟩
    · exact hbounded
    · exact hbounded.apply hsecures.admits
  case granted =>
    intro i s a hs ha
    obtain ⟨h, hat, hcommitted⟩ := hsound.session i s hs
    obtain ⟨c, rfl, hwarrants⟩ := hat.warrants ha
    exact ⟨c, hcommitted, hwarrants⟩
  case otherwise =>
    intro i s hs ha
    obtain ⟨h, hat, hcommitted⟩ := hsound.session i s hs
    rw [hcommitted, hat.committed_eq_nil ha]
  case known =>
    intro entry hentry
    exact ⟨_, List.getElem?_eq_getElem (hsound.known entry hentry)⟩
  case refused =>
    intro s hs hrefused a ha
    obtain ⟨i, hi⟩ := List.mem_iff_getElem?.mp hs
    obtain ⟨h, hat, -⟩ := hsound.session i s hi
    obtain ⟨c, hkept, -⟩ := hat.warrants ha
    cases hkept.symm.trans (hat.refused hrefused)
  case undisturbed =>
    intro i s hs
    obtain ⟨h, hat, -⟩ := hsound.session i s hs
    refine ⟨fun number next hleft => ?_, fun detail hinternal => hat.outer hinternal detail rfl⟩
    obtain ⟨hopened, hsecures⟩ := hat.locked hleft
    exact ⟨_, _, answer_redeemCode hopened hsecures⟩

/-! A code that is good for one activation, and the promotion that it belongs to: three sessions
activate it and a fourth deletes it. The gate refuses the first one. The second one passes the code
over while it is locked, then waits for it, and finds that the third one has redeemed it. The
deletion waits for the code, too. -/

def soleCode : Tables where
  owners := [(Supply.idAt 0, Supply.idAt 1)]
  codes := [⟨1, Supply.idAt 0, ⟨"SOLE", 0, 1⟩⟩]
  distinct := by decide
  ordered := by decide

def soleCodeRace : List Traffic.Move :=
  let go (sessions : List Nat) : List Traffic.Move := sessions.map fun i => .advance i {}
  [.begin (.activate (Supply.idAt 0)), .begin (.activate (Supply.idAt 0)),
    .begin (.activate (Supply.idAt 0)), .begin (.delete (Supply.idAt 0) (Supply.idAt 1))] ++
  go [0, 0, 0, 1, 1, 1, 1, 1, 3, 3, 3] ++ [.advance 0 { refuses := true }] ++
  go [0, 2, 2, 2, 2, 2, 2, 1, 1, 1, 1, 3, 3, 3]

/-- The code is redeemed by one of the sessions, and the promotion is deleted by the last one. -/
theorem sole_code_redeemed_once : soleCode.Bounded ∧ ∃ x,
    (Traffic.start soleCode).run soleCodeRace = some x ∧
      x.server.history = [(3, .remove (Supply.idAt 0)), (2, .redeem 1)] ∧ x.Exact soleCode := by
  have hbounded : soleCode.Bounded := by decide
  have hhistory : ((Traffic.start soleCode).run soleCodeRace).map (·.server.history) =
      some [(3, .remove (Supply.idAt 0)), (2, .redeem 1)] := by decide +kernel
  obtain ⟨x, hx, hhistory⟩ := Option.map_eq_some_iff.mp hhistory
  exact ⟨hbounded, x, hx, hhistory, Traffic.redemption_is_exact hbounded hx⟩

end Promotions.Postgres
