import Promotions.Proofs.Transcripts

/-!
Operations on the database are all or nothing. Whatever the database replies and whatever the gate
decides, an operation that changes rows is one transaction: it is committed where the operation
succeeds, and where it fails it ends with a rollback.
-/

namespace Promotions.Postgres

open Exchange Transcript

/-! ### One transaction -/

/-- A transaction as its transcript shows it. -/
structure AllOrNothing {α : Type} (t : Transcript) (r : Except Failure α) : Prop where
  begins : (statements t).head? = some .begin
  /-- Where it cannot begin, nothing else is sent. -/
  alone : ∀ cause rest, t = ⟨.send .begin, .error cause⟩ :: rest → rest = []
  /-- It succeeds exactly if a commit does. -/
  committed : (∃ a, r = .ok a) ↔ ⟨.send .commit, .ok ()⟩ ∈ t
  /-- Where it succeeds, the commit comes last and no other statement controls a transaction. -/
  kept : ∀ a, r = .ok a → ∃ between, statements t = .begin :: (between ++ [.commit]) ∧
    ∀ s ∈ between, s.isControl = false
  /-- Where it fails after it began, it ends with a rollback. -/
  undone : ∀ f rest, r = .error f → t = ⟨.send .begin, .ok ()⟩ :: rest →
    (statements t).getLast? = some .rollback

/-- No statement that controls a transaction is sent. -/
def Uncontrolled (t : Transcript) : Prop := ∀ s ∈ statements t, s.isControl = false

theorem Uncontrolled.commit_notMem {t : Transcript} (h : Uncontrolled t) :
    .commit ∉ statements t := by
  intro hmem
  cases h _ hmem

/-- What the work of a transaction may have sent when it comes to its verdict. -/
def Verdict.Accords {α : Type} (t : Transcript) : Verdict α → Prop
  | keep _ => Uncontrolled t
  | giveUp _ => .commit ∉ statements t
  | gone _ => .commit ∉ statements t ∧ (statements t).getLast? = some .rollback

/-- A named step fails, or there is a reply to it. -/
theorem goes_step {α : Type} {name : String} {s : Statement}
    {k : Except Failure s.Reply → Exchange α} {t : Transcript} {a : α}
    (h : (step name s >>= k).Goes t a) :
    (∃ cause rest, t = ⟨.send s, .error cause⟩ :: rest ∧
      (k (.error (.storage name cause))).Goes rest a) ∨
    ∃ reply rest, t = ⟨.send s, .ok reply⟩ :: rest ∧ (k (.ok reply)).Goes rest a := by
  obtain ⟨reply, rest, rfl, hrest⟩ := h
  cases reply with
  | error cause => exact Or.inl ⟨cause, rest, rfl, hrest⟩
  | ok reply => exact Or.inr ⟨reply, rest, rfl, hrest⟩

/-- How a transaction ends after the verdict on its work. -/
inductive Ending {α : Type} : Verdict α → Transcript → Except Failure α → Prop
  | gone {f : Failure} : Ending (.gone f) [] (.error f)
  | givenUp {f : Failure} {reply : Except StorageCause Unit} :
      Ending (.giveUp f) [⟨.send .rollback, reply⟩] (.error f)
  | kept {a : α} : Ending (.keep a) [⟨.send .commit, .ok ()⟩] (.ok a)
  | lost {a : α} {f : Failure} {cause : StorageCause} {reply : Except StorageCause Unit} :
      Ending (.keep a) [⟨.send .commit, .error cause⟩, ⟨.send .rollback, reply⟩] (.error f)

/-- A transaction cannot begin, or its work is done and it ends. -/
theorem goes_transaction {α : Type} {operation : String} {work : Exchange (Verdict α)}
    {t : Transcript} {r : Except Failure α} (h : (transaction operation work).Goes t r) :
    (∃ cause f, t = [⟨.send .begin, .error cause⟩] ∧ r = .error f) ∨
      ∃ sent v ending, work.Goes sent v ∧ Ending v ending r ∧
        t = ⟨.send .begin, .ok ()⟩ :: (sent ++ ending) := by
  rcases goes_step h with ⟨cause, rest, rfl, hrest⟩ | ⟨u, rest, rfl, hrest⟩
  · obtain ⟨rfl, rfl⟩ := hrest
    exact Or.inl ⟨cause, _, rfl, rfl⟩
  · obtain ⟨sent, ending, v, rfl, hv, hend⟩ := Dialogue.goes_bind.mp hrest
    refine Or.inr ⟨sent, v, ending, hv, ?_, rfl⟩
    cases v with
    | gone f =>
      obtain ⟨rfl, rfl⟩ := hend
      exact .gone
    | giveUp f =>
      obtain ⟨reply, _, rfl, rfl, rfl⟩ := hend
      exact .givenUp
    | keep a =>
      rcases goes_step hend with ⟨cause, rest, rfl, hcommit⟩ | ⟨u, rest, rfl, hcommit⟩
      · obtain ⟨reply, _, rfl, rfl, rfl⟩ := hcommit
        exact .lost
      · obtain ⟨rfl, rfl⟩ := hcommit
        exact .kept

theorem Verdict.Accords.commit_notMem {α : Type} {t : Transcript} {v : Verdict α}
    (h : v.Accords t) : .commit ∉ statements t := by
  cases v with
  | keep a => exact Uncontrolled.commit_notMem h
  | giveUp f => exact h
  | gone f => exact h.1

/-- A transaction whose work keeps to what it may send is all or nothing. -/
theorem allOrNothing_of_goes {α : Type} {operation : String} {work : Exchange (Verdict α)}
    (hwork : ∀ t v, work.Goes t v → v.Accords t) {t : Transcript} {r : Except Failure α}
    (h : (transaction operation work).Goes t r) : AllOrNothing t r := by
  rcases goes_transaction h with ⟨cause, f, rfl, rfl⟩ | ⟨sent, v, ending, hv, hending, rfl⟩
  · refine ⟨rfl, ?_, ?_, ?_, ?_⟩
    · rintro _ _ heq
      cases heq
      rfl
    · simp
    · rintro _ ⟨⟩
    · rintro _ _ _ heq
      cases heq
  · have haccords := hwork sent v hv
    have huncommitted : (⟨.send .commit, .ok ()⟩ : (q : Question) × q.Answer) ∉ sent :=
      fun hmem => haccords.commit_notMem (mem_statements hmem)
    refine ⟨rfl, ?_, ?_, ?_, ?_⟩
    · rintro _ _ heq
      cases heq
    · cases hending <;> simp [huncommitted]
    · rintro a rfl
      cases hending with
      | kept => exact ⟨statements sent, by simp, haccords⟩
    · rintro f _ rfl -
      cases hending with
      | gone => simp [List.getLast?_cons, haccords.2]
      | givenUp | lost => simp [List.getLast?_cons]

/-! ### What comes before what -/

/-- A statement is sent only after something has come about. -/
def OnlyAfter (s : Statement) (t : Transcript) (P : Transcript → Prop) : Prop :=
  ∀ before reply after, t = before ++ ⟨.send s, reply⟩ :: after → P before

/-- Where a statement is not among the first lines, all of them come before it. -/
theorem mem_before {first rest before after : Transcript} {s : Statement}
    {reply : Except StorageCause s.Reply} (hs : s ∉ statements first)
    (h : first ++ rest = before ++ ⟨.send s, reply⟩ :: after) : ∀ line ∈ first, line ∈ before := by
  rcases List.append_eq_append_iff.mp h with ⟨more, hbefore, -⟩ | ⟨more, hfirst, hmore⟩
  · intro line hline
    rw [hbefore]
    exact List.mem_append_left more hline
  · cases more with
    | nil =>
      rw [List.append_nil] at hfirst
      exact fun line hline => hfirst ▸ hline
    | cons line more =>
      -- Else the statement itself would be one of the first lines.
      obtain ⟨rfl, -⟩ := List.cons.inj hmore
      refine absurd (@mem_statements first s reply ?_) hs
      rw [hfirst]
      exact List.mem_append_right _ List.mem_cons_self

theorem onlyAfter_of_notMem {s : Statement} {t : Transcript} (h : s ∉ statements t)
    (P : Transcript → Prop) : OnlyAfter s t P := by
  rintro before reply after rfl
  exact absurd (by simp) h

theorem Ending.isControl {α : Type} {v : Verdict α} {ending : Transcript} {r : Except Failure α}
    (h : Ending v ending r) : ∀ s ∈ statements ending, s.isControl = true := by
  cases h <;> simp [Statement.isControl]

section

variable {α : Type} {operation : String} {work : Exchange (Verdict α)} {t : Transcript}
  {r : Except Failure α} {P : Transcript → Prop}

/-- A transaction is all or nothing, and is committed only after what its work is sure of. -/
theorem committed_onlyAfter (hmono : ∀ t t', (∀ line ∈ t, line ∈ t') → P t → P t')
    (hwork : ∀ t v, work.Goes t v → v.Accords t ∧ ∀ a, v = .keep a → P t)
    (h : (transaction operation work).Goes t r) :
    AllOrNothing t r ∧ OnlyAfter .commit t P := by
  refine ⟨allOrNothing_of_goes (fun t v hv => (hwork t v hv).1) h, ?_⟩
  rcases goes_transaction h with ⟨cause, f, rfl, rfl⟩ | ⟨sent, v, ending, hv, hending, rfl⟩
  · exact onlyAfter_of_notMem (by simp) P
  · obtain ⟨haccords, hsure⟩ := hwork sent v hv
    have hbefore : .commit ∉ statements (⟨.send .begin, .ok ()⟩ :: sent) := by
      simp [haccords.commit_notMem]
    cases hending with
    | gone => exact onlyAfter_of_notMem (by simpa using hbefore) P
    | givenUp => exact onlyAfter_of_notMem (by simpa using hbefore) P
    | kept | lost =>
      intro before reply after heq
      refine hmono sent before (fun line hline => ?_) (hsure _ rfl)
      exact mem_before hbefore heq line (List.mem_cons_of_mem _ hline)

/-- A transaction is all or nothing, and what its work sends only after something it does. -/
theorem sent_onlyAfter {s : Statement} (hs : s.isControl = false)
    (hmono : ∀ t t', (∀ line ∈ t, line ∈ t') → P t → P t')
    (hwork : ∀ t v, work.Goes t v → v.Accords t ∧ OnlyAfter s t P)
    (h : (transaction operation work).Goes t r) : AllOrNothing t r ∧ OnlyAfter s t P := by
  refine ⟨allOrNothing_of_goes (fun t v hv => (hwork t v hv).1) h, ?_⟩
  have hcontrol : ∀ {s'}, s'.isControl = true → s ≠ s' := by
    rintro s' hs' rfl
    rw [hs] at hs'
    cases hs'
  rcases goes_transaction h with ⟨cause, f, rfl, rfl⟩ | ⟨sent, v, ending, hv, hending, rfl⟩
  · refine onlyAfter_of_notMem ?_ P
    simpa using hcontrol rfl
  · have hlast : s ∉ statements ending := fun hmem => hcontrol (hending.isControl s hmem) rfl
    intro before reply after heq
    cases before with
    | nil =>
      obtain ⟨hline, -⟩ := List.cons.inj heq
      cases hline
      exact absurd rfl (hcontrol rfl)
    | cons line before =>
      obtain ⟨-, heq⟩ := List.cons.inj heq
      refine hmono before (line :: before) (fun x hx => List.mem_cons_of_mem _ hx) ?_
      rcases List.append_eq_append_iff.mp heq with ⟨more, -, hmore⟩ | ⟨more, hsent, hmore⟩
      · refine absurd (@mem_statements ending s reply ?_) hlast
        rw [hmore]
        exact List.mem_append_right _ List.mem_cons_self
      · cases more with
        | nil =>
          refine absurd (@mem_statements ending s reply ?_) hlast
          rw [List.nil_append] at hmore
          rw [← hmore]
          exact List.mem_cons_self
        | cons x more =>
          obtain ⟨rfl, -⟩ := List.cons.inj hmore
          exact (hwork sent v hv).2 before reply more hsent

end

namespace Repository

/-! ### Creating -/

def Inserted (id : Uuid) (createdAt : Calendar.Instant) (draft : Draft) (codes : List NewCode)
    (t : Transcript) : Prop :=
  (∃ n, ⟨.send (.insertPromotion id createdAt draft), .ok n⟩ ∈ t) ∧
    ⟨.send (.insertCodes id codes), .ok codes.length⟩ ∈ t

/-- A promotion is created completely or not at all, and nothing is committed before it and all its
codes are inserted. -/
theorem goes_create {id : Uuid} {createdAt : Calendar.Instant} {draft : Draft}
    {codes : List NewCode} {t : Transcript} {r : Except Failure Unit}
    (h : (create id createdAt draft codes).Goes t r) :
    AllOrNothing t r ∧ OnlyAfter .commit t (Inserted id createdAt draft codes) := by
  refine committed_onlyAfter ?_ (fun sent v hv => ?_) h
  · rintro t t' hsub ⟨⟨n, hpromotion⟩, hcodes⟩
    exact ⟨⟨n, hsub _ hpromotion⟩, hsub _ hcodes⟩
  · rcases goes_step hv with ⟨cause, rest, rfl, hrest⟩ | ⟨n, rest, rfl, hrest⟩
    · obtain ⟨rfl, rfl⟩ := hrest
      exact ⟨by simp [Verdict.Accords], by rintro _ ⟨⟩⟩
    · rcases goes_step hrest with ⟨cause, rest, rfl, hend⟩ | ⟨inserted, rest, rfl, hend⟩
      · obtain ⟨rfl, rfl⟩ := hend
        exact ⟨by simp [Verdict.Accords], by rintro _ ⟨⟩⟩
      · by_cases hall : (inserted : Nat) = codes.length
        · subst hall
          simp only [if_true] at hend
          obtain ⟨rfl, rfl⟩ := hend
          refine ⟨?_, fun _ _ => ⟨⟨n, by simp⟩, by simp⟩⟩
          simp [Verdict.Accords, Uncontrolled, Statement.isControl]
        · simp only [hall, if_false] at hend
          obtain ⟨rfl, rfl⟩ := hend
          exact ⟨by simp [Verdict.Accords], by rintro _ ⟨⟩⟩

/-! ### Changing and deleting -/

theorem eq_some_of_ensureOwner {owner : Option Uuid} {company : Uuid} {u : Unit}
    (h : ensureOwner owner company = .ok u) : owner = some company := by
  cases owner with
  | none => cases h
  | some owner =>
    simp only [ensureOwner] at h
    split at h
    · rename_i hcompany
      rw [hcompany]
    · cases h

def Owned (id company : Uuid) (t : Transcript) : Prop :=
  ∃ owners, ⟨.send (.lockOwner id), .ok owners⟩ ∈ t ∧ owners.head? = some company

/-- An owner's change is made completely or not at all, and not before the owner is known. -/
theorem goes_asOwner {operation : String} {id company : Uuid} {change : Statement}
    (hcontrol : change.isControl = false) (hlock : change ≠ .lockOwner id) {t : Transcript}
    {r : Except Failure Unit} (h : (asOwner operation id company change).Goes t r) :
    AllOrNothing t r ∧ OnlyAfter change t (Owned id company) := by
  have hcommit : .commit ≠ change := by
    rintro rfl
    cases hcontrol
  refine sent_onlyAfter hcontrol ?_ (fun sent v hv => ?_) h
  · rintro t t' hsub ⟨owners, hlocked, howner⟩
    exact ⟨owners, hsub _ hlocked, howner⟩
  · rcases goes_step hv with ⟨cause, rest, rfl, hrest⟩ | ⟨owners, rest, rfl, hrest⟩
    · obtain ⟨rfl, rfl⟩ := hrest
      exact ⟨by simp [Verdict.Accords], onlyAfter_of_notMem (by simpa using hlock) _⟩
    · dsimp only at hrest
      cases howner : ensureOwner (List.head? owners) company with
      | error f =>
        rw [howner] at hrest
        obtain ⟨rfl, rfl⟩ := hrest
        exact ⟨by simp [Verdict.Accords], onlyAfter_of_notMem (by simpa using hlock) _⟩
      | ok u =>
        rw [howner] at hrest
        have hcompany : List.head? owners = some company := eq_some_of_ensureOwner howner
        have hfirst : change ∉ statements [⟨.send (.lockOwner id), .ok owners⟩] := by
          simpa using hlock
        have hafter : ∀ rest : Transcript,
            OnlyAfter change (⟨.send (.lockOwner id), .ok owners⟩ :: rest) (Owned id company) :=
          fun rest before reply after heq =>
            ⟨owners, mem_before hfirst heq _ List.mem_cons_self, hcompany⟩
        rcases goes_step hrest with ⟨cause, rest, rfl, hend⟩ | ⟨n, rest, rfl, hend⟩
        · obtain ⟨rfl, rfl⟩ := hend
          exact ⟨by simpa [Verdict.Accords] using hcommit, hafter _⟩
        · obtain ⟨rfl, rfl⟩ := hend
          refine ⟨?_, hafter _⟩
          simpa [Verdict.Accords, Uncontrolled, Statement.isControl] using hcontrol

/-! ### Activating -/

theorem uncontrolled_of_lockCode {id : Uuid} {t : Transcript}
    {a : Except Failure (Option (Int × String))} (h : (lockCode id).Goes t a) :
    Uncontrolled t := by
  rcases goes_step h with ⟨cause, rest, rfl, hrest⟩ | ⟨rows, rest, rfl, hrest⟩
  · obtain ⟨rfl, rfl⟩ := hrest
    simp [Uncontrolled, Statement.isControl]
  · cases rows with
    | cons row rows =>
      obtain ⟨rfl, rfl⟩ := hrest
      simp [Uncontrolled, Statement.isControl]
    | nil =>
      rcases goes_step hrest with ⟨cause, rest, rfl, rfl, -⟩ | ⟨rows, rest, rfl, rfl, -⟩ <;>
        simp [Uncontrolled, Statement.isControl]

theorem uncontrolled_of_whyNone {id : Uuid} {t : Transcript} {f : Failure}
    (h : (whyNone id).Goes t f) : Uncontrolled t := by
  rcases goes_step h with ⟨cause, rest, rfl, rfl, -⟩ | ⟨rows, rest, rfl, hend⟩
  · simp [Uncontrolled, Statement.isControl]
  · cases rows with
    | nil =>
      obtain ⟨rfl, -⟩ := hend
      simp [Uncontrolled, Statement.isControl]
    | cons there rows =>
      obtain ⟨rfl, -⟩ := hend
      simp [Uncontrolled, Statement.isControl]

/-- An activation is carried out completely or not at all. -/
theorem goes_activate {id : Uuid} {t : Transcript} {r : Except Failure String}
    (h : (activate id).Goes t r) : AllOrNothing t r := by
  refine allOrNothing_of_goes (fun sent v hv => ?_) h
  obtain ⟨locking, after, row?, rfl, hlocking, hafter⟩ := Dialogue.goes_bind.mp hv
  have hquiet := uncontrolled_of_lockCode hlocking
  have hcommit := hquiet.commit_notMem
  match row? with
  | .error f =>
    obtain ⟨rfl, rfl⟩ := hafter
    simpa [Verdict.Accords] using hcommit
  | .ok none =>
    obtain ⟨asking, _, f, rfl, hasking, rfl, rfl⟩ := Dialogue.goes_bind.mp hafter
    have hnone := (uncontrolled_of_whyNone hasking).commit_notMem
    simp [Verdict.Accords, hcommit, hnone]
  | .ok (some (row, code)) =>
    obtain ⟨refused, rest, rfl, hrest⟩ := hafter
    cases refused with
    | true =>
      rcases goes_step hrest with ⟨cause, rest, rfl, hend⟩ | ⟨u, rest, rfl, hend⟩
      · obtain ⟨rfl, rfl⟩ := hend
        simp [Verdict.Accords, hcommit]
      · obtain ⟨rfl, rfl⟩ := hend
        simp [Verdict.Accords, hcommit]
    | false =>
      rcases goes_step hrest with ⟨cause, rest, rfl, hend⟩ | ⟨updated, rest, rfl, hend⟩
      · obtain ⟨rfl, rfl⟩ := hend
        simp [Verdict.Accords, hcommit]
      · by_cases hone : (updated : Nat) = 1
        · subst hone
          obtain ⟨rfl, rfl⟩ := hend
          intro s hs
          simp only [statements_append, statements_gate, statements_send, statements_nil,
            List.mem_append, List.mem_singleton] at hs
          rcases hs with hs | rfl
          · exact hquiet s hs
          · rfl
        · simp only [hone, if_false] at hend
          obtain ⟨rfl, rfl⟩ := hend
          simp [Verdict.Accords, hcommit]

/-- Operations on the database are all or nothing, whoever answers. Creating, changing, deleting and
activating each are one transaction that is committed exactly if the operation succeeds and ends
with a rollback if it fails after it began; a promotion is committed only after it and all of its
codes have been inserted, and it is changed or deleted only after it was found that the company owns
it. -/
theorem repository_all_or_nothing {σ : Type} (answer : (q : Question) → σ → q.Answer × σ) (s : σ) :
    (∀ id createdAt draft codes,
      AllOrNothing ((create id createdAt draft codes).transcript answer s)
        ((create id createdAt draft codes).run answer s).1 ∧
      OnlyAfter .commit ((create id createdAt draft codes).transcript answer s)
        (Inserted id createdAt draft codes)) ∧
    (∀ id company content,
      AllOrNothing ((update id company content).transcript answer s)
        ((update id company content).run answer s).1 ∧
      OnlyAfter (.updatePromotion id content) ((update id company content).transcript answer s)
        (Owned id company)) ∧
    (∀ id company,
      AllOrNothing ((delete id company).transcript answer s)
        ((delete id company).run answer s).1 ∧
      OnlyAfter (.deletePromotion id) ((delete id company).transcript answer s)
        (Owned id company)) ∧
    ∀ id, AllOrNothing ((activate id).transcript answer s) ((activate id).run answer s).1 := by
  refine ⟨?_, ?_, ?_, ?_⟩
  · intro id createdAt draft codes
    exact goes_create (Dialogue.goes_transcript answer _ s)
  · intro id company content
    exact goes_asOwner rfl (by simp) (Dialogue.goes_transcript answer (update id company content) s)
  · intro id company
    exact goes_asOwner rfl (by simp) (Dialogue.goes_transcript answer (delete id company) s)
  · intro id
    exact goes_activate (Dialogue.goes_transcript answer _ s)

end Repository

end Promotions.Postgres
