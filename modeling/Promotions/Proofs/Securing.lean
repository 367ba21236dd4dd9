import Mathlib.Data.List.Nodup
import Promotions.Proofs.Rows
import Promotions.Proofs.Standings

/-!
What the server does for a session. Before a session makes a change it has locked what the change is
about: the code that it redeems, or the promotion that it removes with all of its codes. What it has
locked nobody else changes, so that what it has found out still holds when it comes to change it.
Hence every answer moves a session on, and a change that is committed is one that the committed
tables admit.
-/

namespace Promotions.Postgres

open Memory (hasRoom toInt_redeemed)

/-! ### Tables and changes -/

@[simp] theorem CodeRow.number_redeem (row : CodeRow) : row.redeem.number = row.number := rfl

namespace Tables

variable {t : Tables} {number : Int} {id : Uuid} {row : CodeRow}

@[simp] theorem applyAll_nil (t : Tables) : t.applyAll [] = t := rfl

theorem eq_of_number_eq {a b : CodeRow} (ha : a ∈ t.codes) (hb : b ∈ t.codes)
    (h : a.number = b.number) : a = b := by
  have hnodup : (t.codes.map (·.number)).Nodup :=
    List.pairwise_map.mpr (t.ordered.imp fun hab => Int.ne_of_lt hab)
  exact List.inj_on_of_nodup_map hnodup ha hb h

theorem code?_eq_some_iff : t.code? number = some row ↔ row ∈ t.codes ∧ row.number = number := by
  constructor
  · intro h
    exact ⟨List.mem_of_find?_eq_some h, by simpa using List.find?_some h⟩
  · rintro ⟨hrow, rfl⟩
    cases hfound : t.code? row.number with
    | none => simpa using List.find?_eq_none.mp hfound row hrow
    | some other =>
      have hnumber : other.number = row.number := by simpa using List.find?_some hfound
      rw [eq_of_number_eq (List.mem_of_find?_eq_some hfound) hrow hnumber]

theorem mem_redeem : row ∈ (t.redeem number).codes ↔
    (row ∈ t.codes ∧ row.number ≠ number) ∨
      ∃ old ∈ t.codes, old.number = number ∧ row = old.redeem := by
  simp only [redeem, List.mem_map]
  constructor
  · rintro ⟨old, hold, rfl⟩
    split
    · rename_i hnumber
      exact Or.inr ⟨old, hold, hnumber, rfl⟩
    · rename_i hnumber
      exact Or.inl ⟨hold, hnumber⟩
  · rintro (⟨hrow, hnumber⟩ | ⟨old, hold, hnumber, rfl⟩)
    · exact ⟨row, hrow, if_neg hnumber⟩
    · exact ⟨old, hold, if_pos hnumber⟩

theorem mem_remove : row ∈ (t.remove id).codes ↔ row ∈ t.codes ∧ row.promotion ≠ id := by
  simp [remove]

theorem owner?_remove (t : Tables) (id x : Uuid) :
    (t.remove id).owner? x = if x = id then none else t.owner? x := by
  simp only [remove, owner?, List.find?_filter]
  split
  · rename_i h
    subst h
    simp
  · rename_i h
    congr 2
    funext entry
    by_cases hentry : entry.1 = x <;> simp [hentry, h]

/-- No code has been handed out more often than it may be. -/
def Bounded (t : Tables) : Prop :=
  ∀ row ∈ t.codes, 0 ≤ row.count.activations.toInt ∧
    row.count.activations.toInt ≤ row.count.maxCount.toInt

instance (t : Tables) : Decidable t.Bounded :=
  inferInstanceAs (Decidable (∀ row ∈ t.codes, _))

def Ready (t : Tables) (number : Int) : Prop :=
  ∃ row, t.code? number = some row ∧ hasRoom row.count = true

theorem Ready.hasRoom (h : t.Ready number) (hrow : row ∈ t.codes) (hnumber : row.number = number) :
    hasRoom row.count = true := by
  obtain ⟨other, hother, hroom⟩ := h
  have hrow : t.code? number = some row := code?_eq_some_iff.mpr ⟨hrow, hnumber⟩
  rw [hother] at hrow
  rwa [← Option.some.inj hrow]

/-- What a change is about is there: a code that has activations left, or a promotion. -/
def Admits (t : Tables) : Change → Prop
  | .redeem number => t.Ready number
  | .remove id => (t.owner? id).isSome = true

/-- What tables become by changes, of which the latest comes first. Each of them finds what it is
about. -/
inductive Becomes (t : Tables) : List Change → Tables → Prop
  | start : Becomes t [] t
  | change {t' : Tables} {changes : List Change} {c : Change} : Becomes t changes t' →
      t'.Admits c → Becomes t (c :: changes) (t'.apply c)

/-- No code is handed out too often by a change that the tables admit. -/
theorem Bounded.apply {c : Change} (h : t.Bounded) (hc : t.Admits c) : (t.apply c).Bounded := by
  intro row hrow
  cases c with
  | remove id => exact h row (mem_remove.mp hrow).1
  | redeem number =>
    rcases mem_redeem.mp hrow with ⟨hrow, -⟩ | ⟨old, hold, hnumber, rfl⟩
    · exact h row hrow
    · have hroom := hc.hasRoom hold hnumber
      have hone := toInt_redeemed old.count hroom
      have hlt : old.count.activations.toInt < old.count.maxCount.toInt := by
        simpa [Memory.hasRoom, Int64.lt_iff_toInt_lt] using hroom
      have hmax : old.redeem.count.maxCount = old.count.maxCount := rfl
      have hnonneg := (h old hold).1
      change old.redeem.count.activations.toInt = _ at hone
      rw [hmax]
      omega

/-- No code is handed out too often by changes that find what they are about. -/
theorem Becomes.bounded {t' : Tables} {changes : List Change} (h : t.Becomes changes t')
    (ht : t.Bounded) : t'.Bounded := by
  induction h with
  | start => exact ht
  | change _ hc ih => exact ih.apply hc

/-- What tables have in common with the ones that they have come from by changes. -/
structure Since (t : Tables) (changes : List Change) (t' : Tables) : Prop where
  owners : ∀ id owner, t'.owner? id = some owner → t.owner? id = some owner
  /-- A code has as many activations more as it was redeemed. -/
  codes : ∀ row ∈ t'.codes, ∃ old ∈ t.codes, old.number = row.number ∧
    old.promotion = row.promotion ∧ old.count.code = row.count.code ∧
    old.count.maxCount = row.count.maxCount ∧
    row.count.activations.toInt =
      old.count.activations.toInt + changes.count (.redeem row.number)

theorem Since.refl (t : Tables) : t.Since [] t :=
  ⟨fun _ _ h => h, fun row hrow => ⟨row, hrow, rfl, rfl, rfl, rfl, by simp⟩⟩

/-- What tables have in common with earlier ones carries over a change that they admit. -/
theorem Since.apply {t' : Tables} {changes : List Change} {c : Change} (h : t.Since changes t')
    (hc : t'.Admits c) : t.Since (c :: changes) (t'.apply c) := by
  cases c with
  | remove id =>
    refine ⟨fun x owner hx => h.owners x owner ?_, fun row hrow => ?_⟩
    · change (t'.remove id).owner? x = some owner at hx
      rw [owner?_remove] at hx
      split at hx
      · cases hx
      · exact hx
    · simpa using h.codes row (mem_remove.mp hrow).1
  | redeem number =>
    refine ⟨h.owners, fun row hrow => ?_⟩
    rcases mem_redeem.mp hrow with ⟨hrow, hnumber⟩ | ⟨prior, hprior, rfl, rfl⟩
    · simpa [List.count_cons, Ne.symm hnumber] using h.codes row hrow
    · obtain ⟨old, hold, hold_number, hpromotion, hcode, hmax, hcount⟩ := h.codes prior hprior
      refine ⟨old, hold, hold_number, hpromotion, hcode, hmax, ?_⟩
      have hone : prior.redeem.count.activations.toInt = prior.count.activations.toInt + 1 :=
        toInt_redeemed prior.count (hc.hasRoom hprior rfl)
      rw [hone, hcount, CodeRow.number_redeem, List.count_cons_self]
      omega

theorem Becomes.since {t' : Tables} {changes : List Change} (h : t.Becomes changes t') :
    t.Since changes t' := by
  induction h with
  | start => exact .refl t
  | change _ hc ih => exact ih.apply hc

end Tables

/-! ### What one session does to the others -/

namespace Server

variable {sv sv' : Server} {who i : Nat} {l : Lock} {changes : List Change}

theorem free_iff : sv.free who l = true ↔ sv.holder l = none ∨ sv.holder l = some who := by
  cases h : sv.holder l <;> simp [free, h]

/-- What a session makes sure of before it makes a change: it has locked what the change is about,
and what it has locked can be changed. -/
def Secures (sv : Server) (who : Nat) : Change → Prop
  | .redeem number => sv.holder (.code number) = some who ∧ sv.tables.Ready number
  | .remove id => sv.holder (.promotion id) = some who ∧ (sv.tables.owner? id).isSome = true ∧
      ∀ row ∈ sv.tables.codes, row.promotion = id → sv.holder (.code row.number) = some who

/-- A change that a session has made sure of is one that the tables admit. -/
theorem Secures.admits {c : Change} (h : sv.Secures who c) : sv.tables.Admits c := by
  cases c with
  | redeem number => exact h.2
  | remove id => exact h.2.1

/-- What a step of a session does to the server, and what it commits. -/
inductive Effect (who : Nat) (sv : Server) : Server → List Change → Prop
  | same : Effect who sv sv []
  | took {l : Lock} : sv.free who l = true → Effect who sv (sv.take who l) []
  | letGo : Effect who sv (sv.letGo who) []
  | committed {c : Change} : sv.Secures who c → Effect who sv (sv.commit who [c]) [c]

theorem Effect.tables_eq (h : Effect who sv sv' changes) :
    sv'.tables = sv.tables.applyAll changes := by
  cases h <;> rfl

theorem Effect.history_eq (h : Effect who sv sv' changes) :
    sv'.history = changes.map (who, ·) ++ sv.history := by
  cases h <;> rfl

theorem Effect.cases_changes (h : Effect who sv sv' changes) :
    changes = [] ∨ ∃ c, changes = [c] ∧ sv.Secures who c := by
  cases h with
  | committed hc => exact Or.inr ⟨_, rfl, hc⟩
  | _ => exact Or.inl rfl

/-- A session keeps its locks, and what it has locked stays as it is. -/
structure Keeps (i : Nat) (sv sv' : Server) : Prop where
  holder : ∀ l, sv.holder l = some i → sv'.holder l = some i
  code : ∀ number row, sv.holder (.code number) = some i → sv.tables.code? number = some row →
    sv'.tables.code? number = some row
  owner : ∀ id, sv.holder (.promotion id) = some i → sv'.tables.owner? id = sv.tables.owner? id
  rows : ∀ row ∈ sv'.tables.codes, ∃ old ∈ sv.tables.codes, old.number = row.number ∧
    old.promotion = row.promotion

theorem Keeps.take (hfree : sv.free who l = true) (i : Nat) : Keeps i sv (sv.take who l) := by
  refine ⟨fun x hx => ?_, fun _ _ _ h => h, fun _ _ => rfl, fun row hrow => ⟨row, hrow, rfl, rfl⟩⟩
  simp only [Server.take]
  split
  · rename_i hxl
    subst hxl
    rcases free_iff.mp hfree with hnone | hsome
    · rw [hnone] at hx
      cases hx
    · exact hsome.symm.trans hx
  · exact hx

theorem holder_letGo (hi : i ≠ who) (h : sv.holder l = some i) :
    (sv.letGo who).holder l = some i := by
  simp [letGo, h, hi]

/-- A change that a session has made sure of leaves alone what others have locked. -/
theorem Keeps.commit {c : Change} (hc : sv.Secures who c) (hi : i ≠ who) :
    Keeps i sv (sv.commit who [c]) := by
  refine ⟨fun l hl => holder_letGo hi hl, ?_, ?_, ?_⟩
  · intro number row hheld hrow
    obtain ⟨hmem, hnumber⟩ := Tables.code?_eq_some_iff.mp hrow
    refine Tables.code?_eq_some_iff.mpr ⟨?_, hnumber⟩
    cases c with
    | redeem n =>
      refine Tables.mem_redeem.mpr (Or.inl ⟨hmem, ?_⟩)
      rintro rfl
      exact hi (Option.some.inj ((hnumber ▸ hheld).symm.trans hc.1))
    | remove id =>
      refine Tables.mem_remove.mpr ⟨hmem, fun hid => ?_⟩
      exact hi (Option.some.inj ((hnumber ▸ hheld).symm.trans (hc.2.2 row hmem hid)))
  · intro id hheld
    cases c with
    | redeem n => rfl
    | remove x =>
      refine (Tables.owner?_remove _ x id).trans (if_neg ?_)
      rintro rfl
      exact hi (Option.some.inj (hheld.symm.trans hc.1))
  · intro row hrow
    cases c with
    | redeem n =>
      rcases Tables.mem_redeem.mp hrow with ⟨hrow, -⟩ | ⟨old, hold, -, rfl⟩
      · exact ⟨row, hrow, rfl, rfl⟩
      · exact ⟨old, hold, rfl, rfl⟩
    | remove id => exact ⟨row, (Tables.mem_remove.mp hrow).1, rfl, rfl⟩

/-- A step of one session leaves alone what the others have locked. -/
theorem Effect.keeps (h : Effect who sv sv' changes) (hi : i ≠ who) : Keeps i sv sv' := by
  cases h with
  | same => exact ⟨fun _ h => h, fun _ _ _ h => h, fun _ _ => rfl, fun row hrow =>
      ⟨row, hrow, rfl, rfl⟩⟩
  | took hfree => exact .take hfree i
  | letGo => exact ⟨fun _ => holder_letGo hi, fun _ _ _ h => h, fun _ _ => rfl, fun row hrow =>
      ⟨row, hrow, rfl, rfl⟩⟩
  | committed hc => exact .commit hc hi

/-- What a session has made sure of stays sure as long as it keeps its locks. -/
theorem Secures.mono {c : Change} (h : sv.Secures i c) (hk : Keeps i sv sv') :
    sv'.Secures i c := by
  cases c with
  | redeem number =>
    obtain ⟨hheld, row, hrow, hroom⟩ := h
    exact ⟨hk.holder _ hheld, row, hk.code number row hheld hrow, hroom⟩
  | remove id =>
    obtain ⟨hheld, hthere, hcodes⟩ := h
    refine ⟨hk.holder _ hheld, (hk.owner id hheld).symm ▸ hthere, fun row hrow hid => ?_⟩
    obtain ⟨old, hold, hnumber, hpromotion⟩ := hk.rows row hrow
    exact hk.holder _ (hnumber ▸ hcodes old hold (hpromotion.trans hid))

end Server

/-! ### Where a session stands -/

/-- What a transaction has changed so far it has made sure of. -/
def Connection.Pending (c : Connection) (who : Nat) (sv : Server) : Prop :=
  ∀ changes, c.changes = some changes → changes = [] ∨ ∃ d, changes = [d] ∧ sv.Secures who d

namespace Standing

/-- What holds at the server for a session that stands somewhere. -/
def Stands (who : Nat) (sv : Server) (c : Connection) : Standing → Prop
  | idle | kept _ => c.changes = none
  | opened => c.changes = some []
  | locked number => c.changes = some [] ∧ sv.Secures who (.redeem number)
  | holding id => c.changes = some [] ∧ sv.holder (.promotion id) = some who ∧
      (sv.tables.owner? id).isSome = true ∧
      -- A code of the promotion is locked, or the statement has still to come to it.
      ∀ left, c.scan = some left → ∀ row ∈ sv.tables.codes, row.promotion = id →
        sv.holder (.code row.number) = some who ∨ row.number ∈ left
  | changed d => c.changes = some [d] ∧ sv.Secures who d
  | failed => c.Pending who sv

variable {who : Nat} {sv sv' : Server} {c : Connection} {h : Standing}

theorem Stands.pending (hs : h.Stands who sv c) : c.Pending who sv := by
  intro changes hchanges
  cases h with
  | failed => exact hs changes hchanges
  | idle | kept d => cases (show c.changes = none from hs).symm.trans hchanges
  | opened =>
    cases (show c.changes = some [] from hs).symm.trans hchanges
    exact Or.inl rfl
  | locked number =>
    cases hs.1.symm.trans hchanges
    exact Or.inl rfl
  | holding id =>
    cases hs.1.symm.trans hchanges
    exact Or.inl rfl
  | changed d =>
    cases hs.1.symm.trans hchanges
    exact Or.inr ⟨d, rfl, hs.2⟩

/-- A session still stands where it stood as long as it keeps its locks. -/
theorem Stands.mono (hs : h.Stands who sv c) (hk : Server.Keeps who sv sv') :
    h.Stands who sv' c := by
  cases h with
  | idle | opened | kept d => exact hs
  | locked number => exact ⟨hs.1, hs.2.mono hk⟩
  | changed d => exact ⟨hs.1, hs.2.mono hk⟩
  | failed =>
    intro changes hchanges
    exact (hs changes hchanges).imp_right fun ⟨d, hd, hsecures⟩ => ⟨d, hd, hsecures.mono hk⟩
  | holding id =>
    obtain ⟨hopened, hheld, hthere, hscan⟩ := hs
    refine ⟨hopened, hk.holder _ hheld, (hk.owner id hheld).symm ▸ hthere, ?_⟩
    intro left hleft row hrow hid
    obtain ⟨old, hold, hnumber, hpromotion⟩ := hk.rows row hrow
    rw [← hnumber]
    exact (hscan left hleft old hold (hpromotion.trans hid)).imp_left (hk.holder _)

end Standing

/-! ### Answers of the server -/

/-- What becomes of a session when something happens to the statement that it has sent. It moves on
with an answer, and without one it stays where it stands. -/
def Standing.Follows (t : Tables) (h : Standing) (s : Statement) : Option s.Reply → Standing → Prop
  | some r, h' => h.Moves t (.send s) (.ok r) h'
  | none, h' => h' = h

/-- What happens at the server to a session's statement. -/
structure Answered (t : Tables) (who : Nat) (sv : Server) (h : Standing) (s : Statement)
    (r : Option s.Reply) (sv' : Server) (c' : Connection) (h' : Standing) : Prop where
  follows : h.Follows t s r h'
  stands : h'.Stands who sv' c'
  effect : sv.Effect who sv' h'.committed

section

variable {t : Tables} {who : Nat} {sv sv' : Server} {c c' : Connection} {changes : List Change}

theorem Server.fit_of_look {view : Tables} {id : Uuid} {number : Int} {row : CodeRow}
    (h : sv.look view who id number = .fit row) :
    sv.free who (.code number) = true ∧ row ∈ view.codes ∧ row.promotion = id ∧
      hasRoom row.count = true ∧ row.number = number := by
  unfold look at h
  split at h
  · rename_i hfree
    split at h
    · rename_i other hother
      cases h
      have hfit := List.mem_filter.mp (List.mem_of_find?_eq_some hother)
      simp only [Bool.and_eq_true, decide_eq_true_eq] at hfit
      exact ⟨hfree, hfit.1, hfit.2.1, hfit.2.2, by simpa using List.find?_some hother⟩
    · cases h
  · cases h

/-- A search for a free code goes on, finds nothing, or finds a code and locks it. -/
theorem answered_selectFreeCode (ht : t.Since changes sv.tables) (hc : c.changes = some [])
    {id : Uuid} {waits : Bool} {r : Option (List (Int × String))}
    (ha : sv.answer who c (.selectFreeCode id waits) = some (r, sv', c')) :
    ∃ h', Answered t who sv .opened (.selectFreeCode id waits) r sv' c' h' := by
  simp only [Server.answer, Server.execute, hc, Option.bind_some, Tables.applyAll_nil] at ha
  split at ha
  · cases ha
    exact ⟨.opened, rfl, rfl, .same⟩
  · cases ha
    exact ⟨.opened, .nothing, rfl, .same⟩
  · split at ha
    · rename_i row hlook
      cases ha
      obtain ⟨hfree, hrow, hid, hroom, rfl⟩ := Server.fit_of_look hlook
      obtain ⟨old, hold, hnumber, hpromotion, hcode, -⟩ := ht.codes row hrow
      have hfound : Standing.opened.Moves t (.send (.selectFreeCode id waits))
          (.ok [(old.number, old.count.code)]) (.locked old.number) :=
        .found hold (hpromotion.trans hid)
      rw [hnumber, hcode] at hfound
      refine ⟨.locked row.number, hfound, ⟨rfl, if_pos rfl, row, ?_, hroom⟩, .took hfree⟩
      exact Tables.code?_eq_some_iff.mpr ⟨hrow, rfl⟩
    · cases ha
      exact ⟨.opened, rfl, rfl, .same⟩
    · split at ha
      · cases ha
      · cases ha
        exact ⟨.opened, rfl, rfl, .same⟩

theorem answered_lockOwner (ht : t.Since changes sv.tables) (hc : c.changes = some []) {id : Uuid}
    {r : Option (List Uuid)} (ha : sv.answer who c (.lockOwner id) = some (r, sv', c')) :
    ∃ h', Answered t who sv .opened (.lockOwner id) r sv' c' h' := by
  simp only [Server.answer, Server.execute, hc, Option.bind_some, Tables.applyAll_nil] at ha
  split at ha
  · cases ha
    exact ⟨.opened, .ownerless, rfl, .same⟩
  · rename_i owner howner
    split at ha
    · rename_i hfree
      cases ha
      refine ⟨.holding id, .owned (ht.owners id owner howner), ⟨rfl, if_pos rfl, ?_, nofun⟩,
        .took hfree⟩
      exact howner ▸ rfl
    · cases ha

/-- A locked code is redeemed at once. -/
theorem answer_redeemCode {number : Int} (hc : c.changes = some [])
    (hs : sv.Secures who (.redeem number)) :
    sv.answer who c (.redeemCode number) =
      some (some (1 : Nat), sv.take who (.code number), ⟨some [.redeem number], none⟩) := by
  obtain ⟨hheld, row, hrow, hroom⟩ := hs
  have hfree : sv.free who (.code number) = true := Server.free_iff.mpr (Or.inr hheld)
  simp [Server.answer, Server.execute, hc, hrow, hroom, hfree]

theorem answered_redeemCode {number : Int}
    (hs : (Standing.locked number).Stands who sv c) {r : Option Nat}
    (ha : sv.answer who c (.redeemCode number) = some (r, sv', c')) :
    ∃ h', Answered t who sv (.locked number) (.redeemCode number) r sv' c' h' := by
  obtain ⟨hc, hsecures⟩ := hs
  rw [answer_redeemCode hc hsecures] at ha
  cases ha
  have hfree : sv.free who (.code number) = true := Server.free_iff.mpr (Or.inr hsecures.1)
  exact ⟨.changed (.redeem number), .redeemed, ⟨rfl, hsecures.mono (.take hfree who)⟩, .took hfree⟩

/-- A deletion locks the codes of the promotion one by one, and is done once it has locked all. -/
theorem answered_deletePromotion {id : Uuid} (hs : (Standing.holding id).Stands who sv c)
    {r : Option Nat} (ha : sv.answer who c (.deletePromotion id) = some (r, sv', c')) :
    ∃ h', Answered t who sv (.holding id) (.deletePromotion id) r sv' c' h' := by
  obtain ⟨hc, hheld, hthere, hscan⟩ := hs
  simp only [Server.answer, Server.execute, hc, Option.bind_some, Tables.applyAll_nil] at ha
  split at ha
  · split at ha
    · rename_i hfree
      cases ha
      refine ⟨.holding id, rfl, ⟨rfl, if_pos rfl, hthere, ?_⟩, .took hfree⟩
      rintro left ⟨⟩ row hrow hid
      refine Or.inr (List.mem_map.mpr ⟨row, List.mem_filter.mpr ⟨hrow, by simpa using hid⟩, rfl⟩)
    · cases ha
  · rename_i number rest hleft
    split at ha
    · rename_i hfree
      cases ha
      have hk := Server.Keeps.take hfree who
      refine ⟨.holding id, rfl, ⟨rfl, hk.holder _ hheld, hthere, ?_⟩, .took hfree⟩
      rintro left ⟨⟩ row hrow hid
      rcases hscan _ hleft row hrow hid with hlocked | hmem
      · exact Or.inl (hk.holder _ hlocked)
      · rcases List.mem_cons.mp hmem with hnumber | hmem
        · exact Or.inl (if_pos (congrArg Lock.code hnumber))
        · exact Or.inr hmem
    · cases ha
  · rename_i hleft
    split at ha
    · cases ha
      refine ⟨.changed (.remove id), .removed, ⟨rfl, hheld, hthere, fun row hrow hid => ?_⟩, .same⟩
      exact (hscan [] hleft row hrow hid).resolve_right (by simp)
    · rename_i hgone
      rw [hgone] at hthere
      cases hthere

theorem answered_rollback {h : Standing} (hfresh : h.committed = []) {r : Option Unit}
    (ha : sv.answer who c .rollback = some (r, sv', c')) :
    ∃ h', Answered t who sv h .rollback r sv' c' h' := by
  cases ha
  exact ⟨.failed, .rolledBack hfresh, nofun, .letGo⟩

/-- Wherever a session stands, the answer to what it may send there moves it on. -/
theorem Standing.Stands.answered {h : Standing} (hs : h.Stands who sv c)
    (ht : t.Since changes sv.tables) {s : Statement} (hask : h.MayAsk (.send s))
    {r : Option s.Reply} (ha : sv.answer who c s = some (r, sv', c')) :
    ∃ h', Answered t who sv h s r sv' c' h' := by
  cases s with
  | rollback => exact answered_rollback (by cases h <;> exact hask) ha
  | begin =>
    cases h with
    | idle =>
      simp only [Server.answer, show c.changes = none from hs] at ha
      cases ha
      exact ⟨.opened, .begun, rfl, .same⟩
    | _ => cases hask
  | selectFreeCode id waits =>
    cases h with
    | opened => exact answered_selectFreeCode ht hs ha
    | _ => cases hask
  | promotionExists id =>
    cases h with
    | opened =>
      simp only [Server.answer, Server.execute, show c.changes = some [] from hs] at ha
      cases ha
      exact ⟨.opened, .looked, rfl, .same⟩
    | _ => cases hask
  | lockOwner id =>
    cases h with
    | opened => exact answered_lockOwner ht hs ha
    | _ => cases hask
  | redeemCode n =>
    cases h with
    | locked number =>
      obtain rfl : n = number := hask
      exact answered_redeemCode hs ha
    | _ => cases hask
  | deletePromotion x =>
    cases h with
    | holding id =>
      obtain rfl : x = id := hask
      exact answered_deletePromotion hs ha
    | _ => cases hask
  | commit =>
    cases h with
    | changed d =>
      simp only [Server.answer, Server.execute, hs.1] at ha
      cases ha
      exact ⟨.kept d, .committed, rfl, .committed hs.2⟩
    | _ => cases hask
  | _ => cases h <;> cases hask

end

end Promotions.Postgres
