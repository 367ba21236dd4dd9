import Promotions.Proofs.RowLocks
import Promotions.Proofs.Transactions

/-!
What activations and deletions rely on while they talk to the database. At any moment a session
stands somewhere between the begin of its transaction and its end, and from where it stands follows
what it may send next. An answer moves it on: a free code that it is given is locked, and so is a
promotion whose owner it is told. Where every answer moves a session on, an activation ends with a
code that it has redeemed, or with a failure and nothing changed; it never learns that a code has
changed although it was locked.
-/

namespace Promotions.Postgres

open Exchange

inductive Standing where
  /-- Its transaction has not begun. -/
  | idle
  /-- Its transaction has changed nothing yet, and relies on nothing. -/
  | opened
  /-- It has locked a code that has activations left. -/
  | locked (number : Int)
  /-- It has locked a promotion that is there. -/
  | holding (id : Uuid)
  /-- Its transaction has made a change. -/
  | changed (c : Change)
  /-- It can only be rolled back. -/
  | failed
  /-- Its change is committed. -/
  | kept (c : Change)

namespace Standing

def committed : Standing → List Change
  | kept c => [c]
  | _ => []

def MayAsk : Standing → Question → Prop
  | idle, .send .begin => True
  | opened, .send (.selectFreeCode _ _) | opened, .send (.promotionExists _)
  | opened, .send (.lockOwner _) => True
  | locked _, .gate _ _ => True
  | locked number, .send (.redeemCode n) => n = number
  | holding id, .send (.deletePromotion x) => x = id
  | changed _, .send .commit => True
  | h, .send .rollback => h.committed = []
  | _, _ => False

/-- Where an answer moves a session on to, when the tables were these before all changes. -/
inductive Moves (t : Tables) : Standing → (q : Question) → q.Answer → Standing → Prop
  | begun : Moves t idle (.send .begin) (.ok ()) opened
  | nothing {id : Uuid} {waits : Bool} :
      Moves t opened (.send (.selectFreeCode id waits)) (.ok []) opened
  | found {id : Uuid} {waits : Bool} {row : CodeRow} : row ∈ t.codes → row.promotion = id →
      Moves t opened (.send (.selectFreeCode id waits)) (.ok [(row.number, row.count.code)])
        (locked row.number)
  | looked {id : Uuid} {there : Bool} :
      Moves t opened (.send (.promotionExists id)) (.ok [there]) opened
  | refused {number : Int} {id : Uuid} {code : String} :
      Moves t (locked number) (.gate id code) true failed
  | accepted {number : Int} {id : Uuid} {code : String} :
      Moves t (locked number) (.gate id code) false (locked number)
  | redeemed {number : Int} :
      Moves t (locked number) (.send (.redeemCode number)) (.ok (1 : Nat))
        (changed (.redeem number))
  | ownerless {id : Uuid} : Moves t opened (.send (.lockOwner id)) (.ok []) opened
  | owned {id owner : Uuid} : t.owner? id = some owner →
      Moves t opened (.send (.lockOwner id)) (.ok [owner]) (holding id)
  | removed {id : Uuid} :
      Moves t (holding id) (.send (.deletePromotion id)) (.ok (1 : Nat)) (changed (.remove id))
  | committed {c : Change} : Moves t (changed c) (.send .commit) (.ok ()) (kept c)
  | rolledBack {h : Standing} : h.committed = [] → Moves t h (.send .rollback) (.ok ()) failed
  | failed {h : Standing} {s : Statement} {cause : StorageCause} : h.committed = [] →
      Moves t h (.send s) (.error cause) failed

/-- From here a dialogue asks only what it may, as long as the answers move it on, and it ends as it
should. -/
def Allows {α : Type} (t : Tables) (E : Standing → α → Prop) : Standing → Exchange α → Prop
  | h, .done a => E h a
  | h, .ask q next => h.MayAsk q ∧ ∀ r h', Moves t h q r h' → h'.Allows t E (next r)

variable {α β : Type} {t : Tables}

/-- A dialogue that ends as it should can go on with one that is allowed there. -/
theorem Allows.bind {E : Standing → α → Prop} {F : Standing → β → Prop} {h : Standing}
    {e : Exchange α} {k : α → Exchange β} (he : h.Allows t E e)
    (hk : ∀ h a, E h a → h.Allows t F (k a)) : h.Allows t F (e >>= k) := by
  induction e generalizing h with
  | done a => exact hk h a he
  | ask q next ih => exact ⟨he.1, fun r h' hm => ih r (he.2 r h' hm)⟩

/-- A named step fails, or the reply to it moves the session on. -/
theorem Allows.step {E : Standing → α → Prop} {h : Standing} {name : String} {s : Statement}
    {k : Except Failure s.Reply → Exchange α} (hs : h.MayAsk (.send s))
    (hfailed : ∀ cause, failed.Allows t E (k (.error (.storage name cause))))
    (hnext : ∀ r h', Moves t h (.send s) (.ok r) h' → h'.Allows t E (k (.ok r))) :
    h.Allows t E (Exchange.step name s >>= k) := by
  refine ⟨hs, fun r h' hm => ?_⟩
  cases r with
  | ok r => exact hnext r h' hm
  | error cause =>
    cases hm with
    | failed _ => exact hfailed cause

end Standing

/-! ### Transactions -/

def Outer (f : Failure) : Prop := ∀ detail, f ≠ .internal detail

/-- How a transaction ends: with a change that warrants its result, or with a failure. -/
def Standing.Ended {α : Type} (warrants : Change → α → Prop) : Standing → Except Failure α → Prop
  | kept c, .ok a => warrants c a
  | failed, .error f => Outer f
  | _, _ => False

def Standing.Judged {α : Type} (warrants : Change → α → Prop) (h : Standing) : Verdict α → Prop
  | .keep a => ∃ c, h = changed c ∧ warrants c a
  | .giveUp f => h.committed = [] ∧ Outer f
  | .gone f => h = failed ∧ Outer f

section

variable {α : Type} {t : Tables} {warrants : Change → α → Prop}

theorem outer_storage (name : String) (cause : StorageCause) : Outer (.storage name cause) :=
  fun _ => nofun

theorem allows_rollback {h : Standing} {f : Failure} (hh : h.committed = []) (hf : Outer f) :
    h.Allows t (Standing.Ended warrants) (send .rollback >>= fun _ => return .error f) := by
  refine ⟨?_, fun r h' hm => ?_⟩
  · cases h <;> exact hh
  · cases hm <;> exact hf

/-- A transaction ends as it should if the verdict on its work is as it should be. -/
theorem allows_transaction {operation : String} {work : Exchange (Verdict α)}
    (hwork : Standing.opened.Allows t (Standing.Judged warrants) work) :
    Standing.idle.Allows t (Standing.Ended warrants) (transaction operation work) := by
  refine .step trivial (fun _ => outer_storage _ _) fun r h' hm => ?_
  cases hm with
  | begun =>
    refine hwork.bind fun h v hv => ?_
    cases v with
    | giveUp f => exact allows_rollback hv.1 hv.2
    | gone f =>
      obtain ⟨rfl, hf⟩ := hv
      exact hf
    | keep a =>
      obtain ⟨c, rfl, hc⟩ := hv
      refine .step trivial (fun _ => allows_rollback rfl (outer_storage _ _)) fun r h' hm => ?_
      cases hm with
      | committed => exact hc

/-- A step that fails ends the work of a transaction. -/
theorem judged_failed {name : String} {cause : StorageCause} :
    Standing.failed.Judged warrants (.giveUp (.storage name cause)) :=
  ⟨rfl, outer_storage _ _⟩

end

/-! ### Activating and deleting -/

/-- What a committed change warrants: that a code of the promotion was redeemed, or that the
promotion of the company is gone. -/
def Task.Warrants (t : Tables) : (task : Task) → Change → task.Result → Prop
  | activate id, .redeem number, code =>
    ∃ row ∈ t.codes, row.number = number ∧ row.promotion = id ∧ row.count.code = code
  | delete id company, .remove x, () => x = id ∧ t.owner? id = some company
  | _, _, _ => False

namespace Repository

theorem allows_whyNone (t : Tables) (id : Uuid) :
    Standing.opened.Allows t (fun h f => h.committed = [] ∧ Outer f) (whyNone id) := by
  refine .step trivial (fun _ => ⟨rfl, outer_storage _ _⟩) fun r h' hm => ?_
  cases hm with
  | looked =>
    rename_i there
    cases there <;> exact ⟨rfl, fun _ => nofun⟩

def Searched (t : Tables) (id : Uuid) :
    Standing → Except Failure (Option (Int × String)) → Prop
  | .locked number, .ok (some (n, code)) =>
    n = number ∧ (Task.activate id).Warrants t (.redeem number) code
  | .opened, .ok none => True
  | .failed, .error f => Outer f
  | _, _ => False

/-- The search for a free code locks one, finds none or fails. -/
theorem allows_lockCode (t : Tables) (id : Uuid) :
    Standing.opened.Allows t (Searched t id) (lockCode id) := by
  refine .step trivial (fun _ => outer_storage _ _) fun r h' hm => ?_
  cases hm with
  | found hrow hid => exact ⟨rfl, _, hrow, rfl, hid, rfl⟩
  | nothing =>
    refine .step trivial (fun _ => outer_storage _ _) fun r h' hm => ?_
    cases hm with
    | found hrow hid => exact ⟨rfl, _, hrow, rfl, hid, rfl⟩
    | nothing => trivial

/-- An activation ends with a code that it has redeemed, or with a failure. -/
theorem allows_activate (t : Tables) (id : Uuid) :
    Standing.idle.Allows t (Standing.Ended ((Task.activate id).Warrants t)) (activate id) := by
  refine allows_transaction ((allows_lockCode t id).bind fun h found hfound => ?_)
  match h, found, hfound with
  | .failed, .error f, hf => exact ⟨rfl, hf⟩
  | .opened, .ok none, _ => exact (allows_whyNone t id).bind fun h f hf => hf
  | .locked number, .ok (some (n, code)), hfound =>
    obtain ⟨rfl, hrow⟩ := hfound
    refine ⟨trivial, fun refuses h' hm => ?_⟩
    cases hm with
    | refused =>
      refine .step rfl (fun _ => judged_failed) fun r h' hm => ?_
      cases hm with
      | rolledBack _ => exact ⟨rfl, fun _ => nofun⟩
    | accepted =>
      refine .step rfl (fun _ => judged_failed) fun r h' hm => ?_
      cases hm with
      | redeemed => exact ⟨_, rfl, hrow⟩

/-- A deletion ends with the promotion gone, which the company owned, or with a failure. -/
theorem allows_delete (t : Tables) (id company : Uuid) :
    Standing.idle.Allows t (Standing.Ended ((Task.delete id company).Warrants t))
      (delete id company) := by
  refine allows_transaction (.step trivial (fun _ => judged_failed) fun r h' hm => ?_)
  cases hm with
  | ownerless => exact ⟨rfl, fun _ => nofun⟩
  | owned howner =>
    rename_i owner
    dsimp only [List.head?_cons]
    cases hensured : ensureOwner (some owner) company with
    | error f =>
      refine ⟨rfl, ?_⟩
      rintro detail rfl
      simp only [ensureOwner] at hensured
      split at hensured <;> cases hensured
    | ok u =>
      refine .step rfl (fun _ => judged_failed) fun r h' hm => ?_
      cases hm with
      | removed => exact ⟨_, rfl, rfl, eq_some_of_ensureOwner hensured ▸ howner⟩

end Repository

/-- Either task asks only what it may, and ends with a change that warrants its result or with a
failure. -/
theorem Task.allows_exchange (t : Tables) (task : Task) :
    Standing.idle.Allows t (Standing.Ended (task.Warrants t)) task.exchange := by
  cases task with
  | activate id => exact Repository.allows_activate t id
  | delete id company => exact Repository.allows_delete t id company

end Promotions.Postgres
