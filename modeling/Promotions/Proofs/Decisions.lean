import Promotions.Proofs.Transactions

/-!
What an activation in the database comes to. Its transcripts are few: they differ in whether a code
was found at once, after waiting or not at all, in what the gate decided and in the step that went
wrong. So it can be told from the transcript whether a code is handed out, and from the failure
which step it was that failed.
-/

namespace Promotions.Postgres

open Exchange Transcript

/-! ### Transcripts of activations -/

namespace Transcript

def decisions (t : Transcript) : List (Uuid × String × Bool) :=
  t.filterMap fun
    | ⟨.gate id code, refused⟩ => some (id, code, refused)
    | ⟨.send _, _⟩ => none

def increments (t : Transcript) : List (Int × Except StorageCause Nat) :=
  t.filterMap fun
    | ⟨.send (.redeemCode row), reply⟩ => some (row, reply)
    | _ => none

def failures (t : Transcript) : List (Statement × StorageCause) :=
  t.filterMap fun
    | ⟨.send s, .error cause⟩ => some (s, cause)
    | _ => none

@[simp] theorem decisions_nil : decisions [] = [] := rfl

@[simp] theorem decisions_gate (id : Uuid) (code : String) (refused : Bool) (t : Transcript) :
    decisions (⟨.gate id code, refused⟩ :: t) = (id, code, refused) :: decisions t := rfl

@[simp] theorem decisions_send (s : Statement) (reply : Except StorageCause s.Reply)
    (t : Transcript) : decisions (⟨.send s, reply⟩ :: t) = decisions t := rfl

@[simp] theorem increments_nil : increments [] = [] := rfl

@[simp] theorem increments_gate (id : Uuid) (code : String) (refused : Bool) (t : Transcript) :
    increments (⟨.gate id code, refused⟩ :: t) = increments t := rfl

@[simp] theorem increments_redeemCode (row : Int) (reply : Except StorageCause Nat)
    (t : Transcript) :
    increments (⟨.send (.redeemCode row), reply⟩ :: t) = (row, reply) :: increments t := rfl

@[simp] theorem increments_send {s : Statement} (hs : ∀ row, s ≠ .redeemCode row)
    (reply : Except StorageCause s.Reply) (t : Transcript) :
    increments (⟨.send s, reply⟩ :: t) = increments t := by
  cases s with
  | redeemCode row => exact absurd rfl (hs row)
  | _ => rfl

@[simp] theorem failures_nil : failures [] = [] := rfl

@[simp] theorem failures_gate (id : Uuid) (code : String) (refused : Bool) (t : Transcript) :
    failures (⟨.gate id code, refused⟩ :: t) = failures t := rfl

@[simp] theorem failures_ok (s : Statement) (reply : s.Reply) (t : Transcript) :
    failures (⟨.send s, .ok reply⟩ :: t) = failures t := rfl

@[simp] theorem failures_error (s : Statement) (cause : StorageCause) (t : Transcript) :
    failures (⟨.send s, .error cause⟩ :: t) = (s, cause) :: failures t := rfl

@[simp] theorem failures_append (t t' : Transcript) :
    failures (t ++ t') = failures t ++ failures t' :=
  List.filterMap_append

theorem mem_of_mem_failures {t : Transcript} {s : Statement} {cause : StorageCause}
    (h : (s, cause) ∈ failures t) : ⟨.send s, .error cause⟩ ∈ t := by
  obtain ⟨line, hline, heq⟩ := List.mem_filterMap.mp h
  split at heq
  · cases heq
    exact hline
  · cases heq

end Transcript

/-- The name of a statement as a step of an activation, if an activation sends it. -/
def Statement.activationStep? : Statement → Option String
  | .begin => some "promo_repo.activate.begin"
  | .selectFreeCode _ false => some "promo_repo.activate.select"
  | .selectFreeCode _ true => some "promo_repo.activate.select_wait"
  | .promotionExists _ => some "promo_repo.activate.exists"
  | .redeemCode _ => some "promo_repo.activate.increment"
  | .commit => some "promo_repo.activate.commit"
  | .rollback => some "promo_repo.activate.rollback"
  | .insertPromotion _ _ _ | .insertCodes _ _ | .selectPromotion _ | .selectPromotions _ _ _
  | .countPromotions _ | .lockOwner _ | .updatePromotion _ _ | .deletePromotion _ => none

namespace Repository

/-- How a code is locked. -/
inductive Locking (id : Uuid) : Transcript → Except Failure (Option (Int × String)) → Prop
  | failed (cause : StorageCause) :
      Locking id [⟨.send (.selectFreeCode id false), .error cause⟩]
        (.error (.storage "promo_repo.activate.select" cause))
  | free (row : Int × String) (rows : List (Int × String)) :
      Locking id [⟨.send (.selectFreeCode id false), .ok (row :: rows)⟩] (.ok (some row))
  | waitFailed (cause : StorageCause) :
      Locking id [⟨.send (.selectFreeCode id false), .ok []⟩,
          ⟨.send (.selectFreeCode id true), .error cause⟩]
        (.error (.storage "promo_repo.activate.select_wait" cause))
  | waited (rows : List (Int × String)) :
      Locking id [⟨.send (.selectFreeCode id false), .ok []⟩,
          ⟨.send (.selectFreeCode id true), .ok rows⟩] (.ok rows.head?)

def absence : Except StorageCause (List Bool) → Failure
  | .error cause => .storage "promo_repo.activate.exists" cause
  | .ok [] => .storage "promo_repo.activate.exists" .rowNotFound
  | .ok (there :: _) => if there then .exhausted else .promotionNotFound

def rejection : Except StorageCause Unit → Failure
  | .ok () => .rejectedByGate
  | .error cause => .storage "promo_repo.activate.rollback" cause

def changedUnderLock (row : Int) : Failure :=
  .internal ("promo_repo.activate: código " ++ toString row ++ " mudou sob trava")

/-- How an activation goes on once it is known whether a code could be locked. -/
inductive Deciding (id : Uuid) :
    Except Failure (Option (Int × String)) → Transcript → Except Failure String → Prop
  | lockFailed (f : Failure) (undone : Except StorageCause Unit) :
      Deciding id (.error f) [⟨.send .rollback, undone⟩] (.error f)
  | nothingFree (there : Except StorageCause (List Bool)) (undone : Except StorageCause Unit) :
      Deciding id (.ok none) [⟨.send (.promotionExists id), there⟩, ⟨.send .rollback, undone⟩]
        (.error (absence there))
  | refused (row : Int) (code : String) :
      Deciding id (.ok (some (row, code))) [⟨.gate id code, true⟩, ⟨.send .rollback, .ok ()⟩]
        (.error .rejectedByGate)
  | refusedInVain (row : Int) (code : String) (cause : StorageCause)
      (undone : Except StorageCause Unit) :
      Deciding id (.ok (some (row, code)))
        [⟨.gate id code, true⟩, ⟨.send .rollback, .error cause⟩, ⟨.send .rollback, undone⟩]
        (.error (.storage "promo_repo.activate.rollback" cause))
  | uncounted (row : Int) (code : String) (cause : StorageCause)
      (undone : Except StorageCause Unit) :
      Deciding id (.ok (some (row, code)))
        [⟨.gate id code, false⟩, ⟨.send (.redeemCode row), .error cause⟩, ⟨.send .rollback, undone⟩]
        (.error (.storage "promo_repo.activate.increment" cause))
  | miscounted (row : Int) (code : String) {updated : Nat} (hne : updated ≠ 1)
      (undone : Except StorageCause Unit) :
      Deciding id (.ok (some (row, code)))
        [⟨.gate id code, false⟩, ⟨.send (.redeemCode row), .ok updated⟩, ⟨.send .rollback, undone⟩]
        (.error (changedUnderLock row))
  | granted (row : Int) (code : String) :
      Deciding id (.ok (some (row, code)))
        [⟨.gate id code, false⟩, ⟨.send (.redeemCode row), .ok 1⟩, ⟨.send .commit, .ok ()⟩]
        (.ok code)
  | uncommitted (row : Int) (code : String) (cause : StorageCause)
      (undone : Except StorageCause Unit) :
      Deciding id (.ok (some (row, code)))
        [⟨.gate id code, false⟩, ⟨.send (.redeemCode row), .ok 1⟩, ⟨.send .commit, .error cause⟩,
          ⟨.send .rollback, undone⟩]
        (.error (.storage "promo_repo.activate.commit" cause))

/-- How an activation goes. -/
inductive Course (id : Uuid) : Transcript → Except Failure String → Prop
  | unbegun (cause : StorageCause) :
      Course id [⟨.send .begin, .error cause⟩] (.error (.storage "promo_repo.activate.begin" cause))
  | begun {locking deciding : Transcript} {found : Except Failure (Option (Int × String))}
      {r : Except Failure String} (hlocking : Locking id locking found)
      (hdeciding : Deciding id found deciding r) :
      Course id (⟨.send .begin, .ok ()⟩ :: (locking ++ deciding)) r

/-- A code is locked as it is told, whatever the database answers. -/
theorem locking_of_goes {id : Uuid} {t : Transcript} {a : Except Failure (Option (Int × String))}
    (h : (lockCode id).Goes t a) : Locking id t a := by
  rcases goes_step h with ⟨cause, rest, rfl, hrest⟩ | ⟨rows, rest, rfl, hrest⟩
  · obtain ⟨rfl, rfl⟩ := hrest
    exact .failed cause
  · cases rows with
    | cons row rows =>
      obtain ⟨rfl, rfl⟩ := hrest
      exact .free row rows
    | nil =>
      rcases goes_step hrest with ⟨cause, rest, rfl, rfl, rfl⟩ | ⟨rows, rest, rfl, rfl, rfl⟩
      · exact .waitFailed cause
      · exact .waited rows

/-- Why there is none is asked for once, and nothing else is. -/
theorem goes_whyNone {id : Uuid} {t : Transcript} {f : Failure} (h : (whyNone id).Goes t f) :
    ∃ there, t = [⟨.send (.promotionExists id), there⟩] ∧ f = absence there := by
  rcases goes_step h with ⟨cause, rest, rfl, rfl, rfl⟩ | ⟨rows, rest, rfl, hend⟩
  · exact ⟨.error cause, rfl, rfl⟩
  · cases rows with
    | nil =>
      obtain ⟨rfl, rfl⟩ := hend
      exact ⟨.ok [], rfl, rfl⟩
    | cons there rows =>
      obtain ⟨rfl, rfl⟩ := hend
      exact ⟨.ok (there :: rows), rfl, rfl⟩

/-- Whatever is answered, an activation takes one of its courses. -/
theorem course_of_goes {id : Uuid} {t : Transcript} {r : Except Failure String}
    (h : (activate id).Goes t r) : Course id t r := by
  rcases goes_step h with ⟨cause, rest, rfl, hrest⟩ | ⟨u, rest, rfl, hrest⟩
  · obtain ⟨rfl, rfl⟩ := hrest
    exact .unbegun cause
  obtain ⟨sent, ending, v, rfl, hv, hending⟩ := Dialogue.goes_bind.mp hrest
  obtain ⟨locking, deciding, found, rfl, hlocking, hdeciding⟩ := Dialogue.goes_bind.mp hv
  rw [List.append_assoc]
  refine .begun (locking_of_goes hlocking) ?_
  match found with
  | .error f =>
    obtain ⟨rfl, rfl⟩ := hdeciding
    obtain ⟨undone, _, rfl, rfl, rfl⟩ := hending
    exact .lockFailed f undone
  | .ok none =>
    obtain ⟨asking, _, f, rfl, hasking, rfl, rfl⟩ := Dialogue.goes_bind.mp hdeciding
    obtain ⟨there, rfl, rfl⟩ := goes_whyNone hasking
    obtain ⟨undone, _, rfl, rfl, rfl⟩ := hending
    exact .nothingFree there undone
  | .ok (some (row, code)) =>
    obtain ⟨refused, rest, rfl, hdecided⟩ := hdeciding
    cases refused with
    | true =>
      rcases goes_step hdecided with ⟨cause, rest, rfl, rfl, rfl⟩ | ⟨u, rest, rfl, rfl, rfl⟩
      · obtain ⟨undone, _, rfl, rfl, rfl⟩ := hending
        exact .refusedInVain row code cause undone
      · obtain ⟨rfl, rfl⟩ := hending
        exact .refused row code
    | false =>
      rcases goes_step hdecided with ⟨cause, rest, rfl, rfl, rfl⟩ | ⟨updated, rest, rfl, hcounted⟩
      · obtain ⟨undone, _, rfl, rfl, rfl⟩ := hending
        exact .uncounted row code cause undone
      · by_cases hone : (updated : Nat) = 1
        · subst hone
          obtain ⟨rfl, rfl⟩ := hcounted
          rcases goes_step hending with ⟨cause, rest, rfl, hcommit⟩ | ⟨u, rest, rfl, hcommit⟩
          · obtain ⟨undone, _, rfl, rfl, rfl⟩ := hcommit
            exact .uncommitted row code cause undone
          · obtain ⟨rfl, rfl⟩ := hcommit
            exact .granted row code
        · simp only [hone, if_false] at hcounted
          obtain ⟨rfl, rfl⟩ := hcounted
          obtain ⟨undone, _, rfl, rfl, rfl⟩ := hending
          exact .miscounted row code hone undone

/-! ### What transcripts tell -/

/-- A row with an activation left was found: at once, or else after waiting. -/
def Found (id : Uuid) (t : Transcript) (row : Int × String) : Prop :=
  ∃ rows, ⟨.send (.selectFreeCode id false), .ok (row :: rows)⟩ ∈ t ∨
    ⟨.send (.selectFreeCode id false), .ok []⟩ ∈ t ∧
      ⟨.send (.selectFreeCode id true), .ok (row :: rows)⟩ ∈ t

/-- No row with an activation left was found, neither at once nor after waiting. -/
def NothingFree (id : Uuid) (t : Transcript) : Prop :=
  ⟨.send (.selectFreeCode id false), .ok []⟩ ∈ t ∧ ⟨.send (.selectFreeCode id true), .ok []⟩ ∈ t

/-- The reasons for which no code is handed out, as the transcript shows them. -/
inductive Explained (id : Uuid) (t : Transcript) : Failure → Prop
  | rejected {code : String} (hrefused : decisions t = [(id, code, true)]) :
      Explained id t .rejectedByGate
  | absent {there : Except StorageCause (List Bool)} (hnone : NothingFree id t)
      (hthere : ⟨.send (.promotionExists id), there⟩ ∈ t) : Explained id t (absence there)
  | failed {s : Statement} {cause : StorageCause} {step : String}
      (hfailed : (s, cause) ∈ failures t) (hstep : s.activationStep? = some step) :
      Explained id t (.storage step cause)
  | miscounted {row : Int} {updated : Nat} (hcounted : increments t = [(row, .ok updated)])
      (hne : updated ≠ 1) : Explained id t (changedUnderLock row)

section

variable {id : Uuid} {t locking deciding : Transcript}
  {found : Except Failure (Option (Int × String))} {r : Except Failure String}

/-- A transaction is begun and a code looked for before anything is decided. -/
theorem Deciding.later (h : Deciding id found deciding r) {s : Statement}
    (hs : s ∈ statements deciding) : s ≠ .begin ∧ ∀ waits, s ≠ .selectFreeCode id waits := by
  have hall : ∀ s ∈ statements deciding, s ≠ .begin ∧ ∀ waits, s ≠ .selectFreeCode id waits := by
    cases h <;> simp
  exact hall s hs

/-- Once it is known whether a code could be locked, none is selected any more. -/
theorem Deciding.selects_notMem (h : Deciding id found deciding r) (waits : Bool)
    (reply : Except StorageCause (List (Int × String))) :
    ⟨.send (.selectFreeCode id waits), reply⟩ ∉ deciding :=
  fun hmem => (h.later (mem_statements hmem)).2 waits rfl

/-- A step that failed is what the activation reports. -/
theorem Deciding.eq_of_failed (h : Deciding id found deciding r) {s : Statement}
    {cause : StorageCause} (hfailed : (s, cause) ∈ failures deciding) (hs : s ≠ .rollback) :
    ∃ step, s.activationStep? = some step ∧ r = .error (.storage step cause) := by
  have hundone (undone : Except StorageCause Unit) :
      (s, cause) ∉ failures [⟨.send .rollback, undone⟩] := by
    intro hmem
    cases undone with
    | ok u => cases hmem
    | error other =>
      rcases List.mem_cons.mp hmem with heq | hmem
      · cases heq
        exact hs rfl
      · cases hmem
  cases h with
  | lockFailed f undone => exact absurd hfailed (hundone undone)
  | nothingFree there undone =>
    cases there with
    | ok rows => exact absurd hfailed (hundone undone)
    | error cause =>
      rcases List.mem_cons.mp hfailed with heq | hfailed
      · cases heq
        exact ⟨_, rfl, rfl⟩
      · exact absurd hfailed (hundone undone)
  | refused row code => cases hfailed
  | refusedInVain row code cause undone =>
    rcases List.mem_cons.mp hfailed with heq | hfailed
    · cases heq
      exact absurd rfl hs
    · exact absurd hfailed (hundone undone)
  | uncounted row code cause undone | uncommitted row code cause undone =>
    rcases List.mem_cons.mp hfailed with heq | hfailed
    · cases heq
      exact ⟨_, rfl, rfl⟩
    · exact absurd hfailed (hundone undone)
  | miscounted row code hne undone => exact absurd hfailed (hundone undone)
  | granted row code => cases hfailed

namespace Locking

variable (h : Locking id locking found)
include h

/-- Only the two selections of a code can fail while it is locked, and either failure is the
result. -/
theorem eq_of_failed {s : Statement} {cause : StorageCause}
    (hfailed : (s, cause) ∈ failures locking) :
    ∃ step, s.activationStep? = some step ∧ found = .error (.storage step cause) := by
  cases h with
  | failed cause | waitFailed cause =>
    rcases List.mem_cons.mp hfailed with heq | hfailed
    · cases heq
      exact ⟨_, rfl, rfl⟩
    · cases hfailed
  | free row rows | waited rows => cases hfailed

/-- What is neither the beginning nor a search for a code is sent after the search. -/
theorem mem_begun_iff {s : Statement} (hbegin : s ≠ .begin)
    (hselect : ∀ waits, s ≠ .selectFreeCode id waits) (reply : Except StorageCause s.Reply) :
    ⟨.send s, reply⟩ ∈ (⟨.send .begin, .ok ()⟩ :: (locking ++ deciding) : Transcript) ↔
      ⟨.send s, reply⟩ ∈ deciding := by
  have hselects : ∀ s ∈ statements locking, ∃ waits, s = .selectFreeCode id waits := by
    cases h <;> simp
  have hlocking : ⟨.send s, reply⟩ ∉ locking := by
    intro hmem
    obtain ⟨waits, hwaits⟩ := hselects s (mem_statements hmem)
    exact hselect waits hwaits
  simp [hbegin, hlocking]

theorem decisions_begun :
    decisions (⟨.send .begin, .ok ()⟩ :: (locking ++ deciding)) = decisions deciding := by
  cases h <;> simp

theorem increments_begun :
    increments (⟨.send .begin, .ok ()⟩ :: (locking ++ deciding)) = increments deciding := by
  cases h <;> simp

/-- A row was found exactly if locking has come to it. -/
theorem found_iff (hdeciding : Deciding id found deciding r) {row : Int × String} :
    Found id (⟨.send .begin, .ok ()⟩ :: (locking ++ deciding)) row ↔ found = .ok (some row) := by
  have hafter := hdeciding.selects_notMem
  cases h with
  | failed cause => simp [Found, hafter]
  | free first rows => simp [Found, hafter, eq_comm]
  | waitFailed cause => simp [Found, hafter]
  | waited rows => cases rows <;> simp [Found, hafter, eq_comm]

/-- Nothing is free exactly if locking has come to nothing. -/
theorem nothingFree_iff (hdeciding : Deciding id found deciding r) :
    NothingFree id (⟨.send .begin, .ok ()⟩ :: (locking ++ deciding)) ↔ found = .ok none := by
  have hafter := hdeciding.selects_notMem
  cases h with
  | failed cause => simp [NothingFree, hafter]
  | free first rows => simp [NothingFree, hafter]
  | waitFailed cause => simp [NothingFree, hafter]
  | waited rows => simp [NothingFree, hafter, eq_comm]

end Locking

namespace Course

variable (h : Course id t r)
include h

/-- A code is handed out exactly if the transcript shows all of these steps. -/
theorem granted_iff (code : String) : r = .ok code ↔ ⟨.send .begin, .ok ()⟩ ∈ t ∧
    ∃ row, Found id t (row, code) ∧ decisions t = [(id, code, false)] ∧
      increments t = [(row, .ok 1)] ∧ ⟨.send .commit, .ok ()⟩ ∈ t := by
  cases h with
  | unbegun cause => simp
  | begun hlocking hdeciding =>
    simp only [hlocking.found_iff hdeciding, hlocking.decisions_begun, hlocking.increments_begun,
      hlocking.mem_begun_iff (s := .commit) nofun nofun (.ok ())]
    cases hdeciding <;> simp [eq_comm]

/-- Nothing but the statements of an activation is sent. -/
theorem step_of_sent {s : Statement} (hs : s ∈ statements t) :
    ∃ step, s.activationStep? = some step := by
  have hall : ∀ s ∈ statements t, s.activationStep?.isSome := by
    cases h with
    | unbegun cause => simp [Statement.activationStep?]
    | @begun locking deciding found _ hlocking hdeciding =>
      have hfirst : ∀ s ∈ statements locking, s.activationStep?.isSome := by
        cases hlocking <;> simp [Statement.activationStep?]
      have hlast : ∀ s ∈ statements deciding, s.activationStep?.isSome := by
        cases hdeciding <;> simp [Statement.activationStep?]
      simpa [Statement.activationStep?, or_imp, forall_and] using And.intro hfirst hlast
  exact Option.isSome_iff_exists.mp (hall s hs)

/-- Whoever waits for a code has found no free one before. -/
theorem waits {reply : Except StorageCause (List (Int × String))}
    (hwaits : ⟨.send (.selectFreeCode id true), reply⟩ ∈ t) :
    ⟨.send (.selectFreeCode id false), .ok []⟩ ∈ t := by
  cases h with
  | unbegun cause => simp at hwaits
  | begun hlocking hdeciding =>
    have hafter := hdeciding.selects_notMem
    cases hlocking <;> simp_all

/-- Without a row the gate is not asked and nothing is counted. -/
theorem unasked (hnone : ∀ row, ¬ Found id t row) : decisions t = [] ∧ increments t = [] := by
  cases h with
  | unbegun cause => exact ⟨rfl, rfl⟩
  | begun hlocking hdeciding =>
    simp only [hlocking.found_iff hdeciding] at hnone
    rw [hlocking.decisions_begun, hlocking.increments_begun]
    cases hdeciding with
    | lockFailed f undone => exact ⟨rfl, rfl⟩
    | nothingFree there undone => exact ⟨rfl, rfl⟩
    | _ => exact absurd rfl (hnone _)

theorem not_found_of_nothingFree (hnone : NothingFree id t) (row : Int × String) :
    ¬ Found id t row := by
  intro hfound
  cases h with
  | unbegun cause => simp [NothingFree] at hnone
  | begun hlocking hdeciding =>
    rw [hlocking.nothingFree_iff hdeciding] at hnone
    rw [hlocking.found_iff hdeciding, hnone] at hfound
    cases hfound

/-- Where the transaction does not begin or a search for a code fails, no code is found. -/
theorem not_found_of_failed {s : Statement} {cause : StorageCause}
    (hfailed : (s, cause) ∈ failures t)
    (hs : s = .begin ∨ ∃ waits, s = .selectFreeCode id waits) (row : Int × String) :
    ¬ Found id t row := by
  intro hfound
  cases h with
  | unbegun cause => simp [Found] at hfound
  | begun hlocking hdeciding =>
    rw [failures_ok, failures_append, List.mem_append] at hfailed
    rcases hfailed with hfailed | hfailed
    · obtain ⟨step, -, hfound'⟩ := hlocking.eq_of_failed hfailed
      rw [hlocking.found_iff hdeciding, hfound'] at hfound
      cases hfound
    · obtain ⟨hbegin, hselect⟩ := hdeciding.later (mem_statements (mem_of_mem_failures hfailed))
      rcases hs with hs | ⟨waits, hs⟩
      · exact hbegin hs
      · exact hselect waits hs

/-- The gate is asked once at most, about the code of the row that was found. -/
theorem asked (hsome : decisions t ≠ []) : ∃ row code refused, Found id t (row, code) ∧
    decisions t = [(id, code, refused)] := by
  cases h with
  | unbegun cause => exact absurd rfl hsome
  | begun hlocking hdeciding =>
    simp only [hlocking.found_iff hdeciding, hlocking.decisions_begun] at hsome ⊢
    cases hdeciding with
    | lockFailed f undone => exact absurd rfl hsome
    | nothingFree there undone => exact absurd rfl hsome
    | refused row code | refusedInVain row code cause undone => exact ⟨row, code, true, rfl, rfl⟩
    | uncounted row code cause undone | miscounted row code hne undone | granted row code
    | uncommitted row code cause undone => exact ⟨row, code, false, rfl, rfl⟩

/-- What is counted is the row that was found, with the gate's consent to its code. -/
theorem counted (hsome : increments t ≠ []) : ∃ row code reply, Found id t (row, code) ∧
    decisions t = [(id, code, false)] ∧ increments t = [(row, reply)] := by
  cases h with
  | unbegun cause => exact absurd rfl hsome
  | begun hlocking hdeciding =>
    simp only [hlocking.found_iff hdeciding, hlocking.decisions_begun,
      hlocking.increments_begun] at hsome ⊢
    cases hdeciding with
    | lockFailed f undone | nothingFree there undone | refused row code
    | refusedInVain row code cause undone => exact absurd rfl hsome
    | uncounted row code cause undone => exact ⟨row, code, .error cause, rfl, rfl, rfl⟩
    | miscounted row code hne undone => exact ⟨row, code, .ok _, rfl, rfl, rfl⟩
    | granted row code | uncommitted row code cause undone =>
      exact ⟨row, code, .ok 1, rfl, rfl, rfl⟩

/-- After a refusal nothing is counted, and a rollback comes next whose reply decides what is
reported. -/
theorem rejected {code : String} (hrefused : (id, code, true) ∈ decisions t) :
    increments t = [] ∧ ∃ before reply after,
      t = before ++ ⟨.gate id code, true⟩ :: ⟨.send .rollback, reply⟩ :: after ∧
      r = .error (rejection reply) := by
  cases h with
  | unbegun cause => cases hrefused
  | begun hlocking hdeciding =>
    rw [hlocking.decisions_begun] at hrefused
    rw [hlocking.increments_begun]
    cases hdeciding with
    | refused row code' =>
      obtain rfl : code = code' := by simpa using hrefused
      exact ⟨rfl, ⟨.send .begin, .ok ()⟩ :: _, .ok (), [], rfl, rfl⟩
    | refusedInVain row code' cause undone =>
      obtain rfl : code = code' := by simpa using hrefused
      exact ⟨rfl, ⟨.send .begin, .ok ()⟩ :: _, .error cause, [⟨.send .rollback, undone⟩], rfl, rfl⟩
    | _ => simp at hrefused

/-- Where nothing is free, what is reported is what is known of the promotion. -/
theorem absent (hnone : NothingFree id t) :
    ∃ there, ⟨.send (.promotionExists id), there⟩ ∈ t ∧ r = .error (absence there) := by
  cases h with
  | unbegun cause => simp [NothingFree] at hnone
  | begun hlocking hdeciding =>
    rw [hlocking.nothingFree_iff hdeciding] at hnone
    subst hnone
    cases hdeciding with
    | nothingFree there undone => exact ⟨there, by simp, rfl⟩

/-- Another number of updated rows than one is reported as an inner fault. -/
theorem miscounted {row : Int} {updated : Nat} (hcounted : (row, .ok updated) ∈ increments t)
    (hne : updated ≠ 1) : r = .error (changedUnderLock row) := by
  cases h with
  | unbegun cause => cases hcounted
  | begun hlocking hdeciding =>
    rw [hlocking.increments_begun] at hcounted
    cases hdeciding with
    | miscounted row' code hne' undone =>
      obtain ⟨rfl, rfl⟩ : row = row' ∧ _ := by simpa using hcounted
      rfl
    | granted row' code | uncommitted row' code cause undone =>
      obtain ⟨rfl, rfl⟩ : row = row' ∧ updated = 1 := by simpa using hcounted
      exact absurd rfl hne
    | _ => simp at hcounted

/-- The first statement that fails decides the result, unless it is the rollback after a refusal. -/
theorem eq_of_failed {s : Statement} {cause : StorageCause} (hfailed : (s, cause) ∈ failures t)
    (hs : s ≠ .rollback) :
    ∃ step, s.activationStep? = some step ∧ r = .error (.storage step cause) := by
  cases h with
  | unbegun cause =>
    rcases List.mem_cons.mp hfailed with heq | hfailed
    · cases heq
      exact ⟨_, rfl, rfl⟩
    · cases hfailed
  | begun hlocking hdeciding =>
    rw [failures_ok, failures_append, List.mem_append] at hfailed
    rcases hfailed with hfailed | hfailed
    · obtain ⟨step, hstep, rfl⟩ := hlocking.eq_of_failed hfailed
      cases hdeciding
      exact ⟨step, hstep, rfl⟩
    · exact hdeciding.eq_of_failed hfailed hs

/-- Nothing fails without a reason. -/
theorem explained {f : Failure} (hf : r = .error f) : Explained id t f := by
  subst hf
  cases h with
  | unbegun cause => exact .failed List.mem_cons_self rfl
  | @begun locking deciding found _ hlocking hdeciding =>
    have hfailures : failures (⟨.send .begin, .ok ()⟩ :: (locking ++ deciding)) =
        failures locking ++ failures deciding := failures_append locking deciding
    cases hdeciding with
    | lockFailed f undone =>
      cases hlocking with
      | failed cause => exact .failed List.mem_cons_self rfl
      | waitFailed cause => exact .failed List.mem_cons_self rfl
    | nothingFree there undone =>
      have hthere : ⟨.send (.promotionExists id), there⟩ ∈
          (⟨.send .begin, .ok ()⟩ :: (locking ++
            [⟨.send (.promotionExists id), there⟩, ⟨.send .rollback, undone⟩]) : Transcript) := by
        simp
      exact .absent ((hlocking.nothingFree_iff (.nothingFree there undone)).mpr rfl) hthere
    | refused row code =>
      exact .rejected hlocking.decisions_begun
    | refusedInVain row code cause undone =>
      exact .failed (s := .rollback) (hfailures ▸ List.mem_append_right _ List.mem_cons_self) rfl
    | uncounted row code cause undone =>
      exact .failed (s := .redeemCode row)
        (hfailures ▸ List.mem_append_right _ List.mem_cons_self) rfl
    | uncommitted row code cause undone =>
      exact .failed (s := .commit) (hfailures ▸ List.mem_append_right _ List.mem_cons_self) rfl
    | miscounted row code hne undone =>
      exact .miscounted hlocking.increments_begun hne

end Course

end

/-- What an activation comes to, told from its transcript. -/
structure Decided (id : Uuid) (t : Transcript) (r : Except Failure String) : Prop where
  /-- A code is handed out exactly if everything went well: the transaction began, a row with that
  code was found, the gate was asked once, about that code, and let it pass, the only change was to
  count that row, it changed one row, and the transaction was committed. -/
  granted : ∀ code, r = .ok code ↔ ⟨.send .begin, .ok ()⟩ ∈ t ∧
    ∃ row, Found id t (row, code) ∧ decisions t = [(id, code, false)] ∧
      increments t = [(row, .ok 1)] ∧ ⟨.send .commit, .ok ()⟩ ∈ t
  /-- Only the statements of an activation are sent. -/
  steps : ∀ s ∈ statements t, ∃ step, s.activationStep? = some step
  /-- Codes that others have locked are waited for only if there is no other. -/
  waits : ∀ reply, ⟨.send (.selectFreeCode id true), reply⟩ ∈ t →
    ⟨.send (.selectFreeCode id false), .ok []⟩ ∈ t
  /-- Without a row that was found, the gate is not asked and nothing is counted. -/
  unasked : (∀ row, ¬ Found id t row) → decisions t = [] ∧ increments t = []
  /-- So it is where neither search finds a row. -/
  unasked_of_nothingFree : NothingFree id t → decisions t = [] ∧ increments t = []
  /-- So it is, too, where the transaction does not begin or a search fails. -/
  unasked_of_failed : ∀ s cause, (s, cause) ∈ failures t →
    (s = .begin ∨ ∃ waits, s = .selectFreeCode id waits) → decisions t = [] ∧ increments t = []
  /-- The gate is asked at most once, and about the code that was found. -/
  asked : decisions t ≠ [] → ∃ row code refused, Found id t (row, code) ∧
    decisions t = [(id, code, refused)]
  /-- At most one row is counted: the one that was found, when the gate let its code pass. -/
  counted : increments t ≠ [] → ∃ row code reply, Found id t (row, code) ∧
    decisions t = [(id, code, false)] ∧ increments t = [(row, reply)]
  /-- A code that the gate refuses is not counted: a rollback follows, and the refusal is reported
  unless the rollback fails. -/
  rejected : ∀ code, (id, code, true) ∈ decisions t → increments t = [] ∧
    ∃ before reply after,
      t = before ++ ⟨.gate id code, true⟩ :: ⟨.send .rollback, reply⟩ :: after ∧
      r = .error (rejection reply)
  /-- Where neither search finds a row, it is asked whether the promotion is there. -/
  absent : NothingFree id t →
    ∃ there, ⟨.send (.promotionExists id), there⟩ ∈ t ∧ r = .error (absence there)
  /-- A step that fails is reported, save for the rollbacks that end what failed before. -/
  failed : ∀ s cause, (s, cause) ∈ failures t → s ≠ .rollback →
    ∃ step, s.activationStep? = some step ∧ r = .error (.storage step cause)
  miscounted : ∀ row updated, (row, .ok updated) ∈ increments t → updated ≠ 1 →
    r = .error (changedUnderLock row)
  /-- There is no other reason to fail. -/
  explained : ∀ f, r = .error f → Explained id t f

/-- Whatever the database replies and whatever the gate decides, an activation comes to what its
transcript says: it hands out the code that was found, allowed, counted and committed, and where it
fails, it reports why. -/
theorem activation_decided {σ : Type} (answer : (q : Question) → σ → q.Answer × σ) (s : σ)
    (id : Uuid) :
    Decided id ((activate id).transcript answer s) ((activate id).run answer s).1 := by
  have h := course_of_goes (Dialogue.goes_transcript answer (activate id) s)
  exact {
    granted := h.granted_iff
    steps := fun _ => h.step_of_sent
    waits := fun _ => h.waits
    unasked := h.unasked
    unasked_of_nothingFree := fun hnone => h.unasked (h.not_found_of_nothingFree hnone)
    unasked_of_failed := fun _ _ hfailed hs => h.unasked (h.not_found_of_failed hfailed hs)
    asked := h.asked
    counted := h.counted
    rejected := fun _ => h.rejected
    absent := h.absent
    failed := fun _ _ => h.eq_of_failed
    miscounted := fun _ _ => h.miscounted
    explained := fun _ => h.explained }

end Repository

end Promotions.Postgres
