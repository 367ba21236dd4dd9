import Promotions.Proofs.Listings
import Promotions.Proofs.Rows
import Promotions.Proofs.SerialRuns
import Promotions.Proofs.Validity

/-!
Histories of serial runs. What an operation makes of a promotion can be told from its result: it is
created, given new content, given one activation more, removed, or left as it is. Hence what the
store has of a promotion is told by the history of the run: which operation created it, which
content was asked for last, and which codes were handed out since then.
-/

namespace Promotions

open Memory (hasRoom redeemed nextCode? redeemNext)

/-! ### Promotions through their lives -/

namespace Promotion

/-- What stays the same of a promotion as long as it is stored. -/
def lasting (p : Promotion) : Uuid × Uuid × Mode × Calendar.Instant × List NewCode :=
  (p.id, p.companyId, p.mode, p.createdAt, p.codes.map CodeCount.issued)

/-- One of the rows has one activation more, and everything else is the same. -/
def Redeems (code : String) (p q : Promotion) : Prop :=
  ∃ before c n after, p.codes = before ++ c :: after ∧ c.code = code ∧
    n.toInt = c.activations.toInt + 1 ∧ n ≤ c.maxCount ∧
      q = { p with codes := before ++ { c with activations := n } :: after }

end Promotion

namespace Memory

/-- The next code is that of the first row with room, and this is the row that is redeemed. -/
theorem redeemNext_of_nextCode? {codes : List CodeCount} {code : String}
    (h : nextCode? codes = some code) : ∃ before c after, codes = before ++ c :: after ∧
      c.code = code ∧ hasRoom c = true ∧ redeemNext codes = before ++ redeemed c :: after := by
  induction codes with
  | nil => cases h
  | cons c cs ih =>
    cases hroom : hasRoom c with
    | true =>
      refine ⟨[], c, cs, rfl, ?_, hroom, by simp [redeemNext, hroom]⟩
      simpa [nextCode?, hroom] using h
    | false =>
      have hrest : nextCode? cs = some code := by simpa [nextCode?, hroom] using h
      obtain ⟨before, d, after, rfl, hcode, hd, hnext⟩ := ih hrest
      exact ⟨c :: before, d, after, rfl, hcode, hd, by simp [redeemNext, hroom, hnext]⟩

/-- Redeeming the next code adds one activation to one row. -/
theorem redeems_of_nextCode? {p : Promotion} {code : String} (h : nextCode? p.codes = some code) :
    p.Redeems code { p with codes := redeemNext p.codes } := by
  obtain ⟨before, c, after, hcodes, hcode, hroom, hnext⟩ := redeemNext_of_nextCode? h
  have hmore := toInt_redeemed c hroom
  have hlt : c.activations.toInt < c.maxCount.toInt := by
    simpa [hasRoom, Int64.lt_iff_toInt_lt] using hroom
  refine ⟨before, c, (redeemed c).activations, after, hcodes, hcode, hmore, ?_, ?_⟩
  · rw [Int64.le_iff_toInt_le]
    omega
  · rw [hnext]
    rfl

/-! ### One operation -/

namespace Served

def created? : Served → Option Uuid
  | ⟨.create _ _, .ok id, _⟩ => some id
  | _ => none

def removed? : Served → Option Uuid
  | ⟨.delete id _, .ok (), _⟩ => some id
  | _ => none

def rewritten? (x : Uuid) : Served → Option Content
  | ⟨.update id _ r, .ok (), _⟩ => if id = x then r.changes.toOption else none
  | _ => none

def granted? (x : Uuid) : Served → Option String
  | ⟨.activate id, .ok code, _⟩ => if id = x then some code else none
  | _ => none

/-- What an operation makes of the promotion with an identifier. -/
inductive Turns (x : Uuid) : Served → Option Promotion → Option Promotion → Prop
  | created {company : Uuid} {r : CreateRequest} {draft : Draft} {now : Calendar.Instant}
      {s : Store} {found : Option Promotion} (hdraft : r.draft company = .ok draft) :
      Turns x ⟨.create company r, .ok x, s⟩ found
        (some (draft.promotion x now draft.budget.pool))
  | rewritten {company : Uuid} {r : UpdateRequest} {content : Content} {s : Store} {p : Promotion}
      (hchanges : r.changes = .ok content) (howner : p.companyId = company) :
      Turns x ⟨.update x company r, .ok (), s⟩ (some p) (some { p with content })
  | removed {company : Uuid} {s : Store} {p : Promotion} (howner : p.companyId = company) :
      Turns x ⟨.delete x company, .ok (), s⟩ (some p) none
  | granted {code : String} {s : Store} {p q : Promotion} (h : p.Redeems code q) :
      Turns x ⟨.activate x, .ok code, s⟩ (some p) (some q)
  | kept {t : Served} {found : Option Promotion} (hcreated : t.created? ≠ some x)
      (hremoved : t.removed? ≠ some x) (hrewritten : t.rewritten? x = none)
      (hgranted : t.granted? x = none) : Turns x t found found

/-- What an operation makes of a store: it turns every promotion into what it is then, and no
identifier comes to be there twice. -/
structure Follows (t : Served) (s : Store) : Prop where
  turns : ∀ x, t.Turns x (s.find? x) (t.store.find? x)
  distinct : s.Distinct → t.store.Distinct

/-- A change that is refused leaves every promotion as it is. -/
theorem Turns.of_refused_update (id company : Uuid) (r : UpdateRequest) (f : Failure) (s : Store)
    (x : Uuid) (found : Option Promotion) :
    Turns x ⟨.update id company r, .error f, s⟩ found found :=
  .kept nofun nofun rfl rfl

end Served

namespace Store

/-- An update turns the promotion that it is about, and no other one. -/
theorem turns_update (s : Store) {r : UpdateRequest} {content : Content}
    (hchanges : r.changes = .ok content) (id company x : Uuid) :
    Served.Turns x ⟨.update id company r, (s.update id company content).1,
      (s.update id company content).2⟩ (s.find? x) ((s.update id company content).2.find? x) := by
  unfold update
  cases howned : s.owned id company with
  | error f => exact .of_refused_update id company r f s x _
  | ok u =>
    obtain ⟨p, hp, hcompany⟩ := exists_of_owned howned
    have hid (p : Promotion) : { p with content }.id = p.id := rfl
    dsimp only
    rw [find?_modify s id x hid]
    by_cases hx : x = id
    · subst hx
      rw [if_pos rfl, hp]
      exact .rewritten hchanges hcompany
    · rw [if_neg hx]
      exact .kept nofun nofun (if_neg (Ne.symm hx)) rfl

theorem Distinct.update {s : Store} (h : s.Distinct) (id company : Uuid) (content : Content) :
    (s.update id company content).2.Distinct := by
  unfold Store.update
  cases s.owned id company with
  | error f => exact h
  | ok u => exact h.modify id fun _ => rfl

/-- A deletion removes the promotion that it is about, and no other one. -/
theorem turns_delete (s : Store) (id company x : Uuid) :
    Served.Turns x ⟨.delete id company, (s.delete id company).1, (s.delete id company).2⟩
      (s.find? x) ((s.delete id company).2.find? x) := by
  unfold delete
  cases howned : s.owned id company with
  | error f => exact .kept nofun nofun rfl rfl
  | ok u =>
    obtain ⟨p, hp, hcompany⟩ := exists_of_owned howned
    dsimp only
    rw [find?_remove]
    by_cases hx : x = id
    · subst hx
      rw [if_pos rfl, hp]
      exact .removed hcompany
    · rw [if_neg hx]
      exact .kept nofun (fun h => hx (Option.some.inj h).symm) rfl rfl

theorem Distinct.delete {s : Store} (h : s.Distinct) (id company : Uuid) :
    (s.delete id company).2.Distinct := by
  unfold Store.delete
  cases s.owned id company with
  | error f => exact h
  | ok u => exact h.remove id

/-- An activation redeems a code of the promotion that it is about, if it does anything. -/
theorem turns_activate (s : Store) {γ : Type} (refuse : Uuid → String → γ → Bool × γ) (g : γ)
    (id x : Uuid) :
    Served.Turns x ⟨.activate id, (s.activate refuse id g).1, (s.activate refuse id g).2.1⟩
      (s.find? x) ((s.activate refuse id g).2.1.find? x) := by
  unfold activate
  cases hfind : s.find? id with
  | none => exact .kept nofun nofun rfl rfl
  | some p =>
    cases hnext : nextCode? p.codes with
    | none =>
      simp only [hnext]
      exact .kept nofun nofun rfl rfl
    | some code =>
      simp only [hnext]
      split
      · exact .kept nofun nofun rfl rfl
      · have hid (p : Promotion) : { p with codes := redeemNext p.codes }.id = p.id := rfl
        dsimp only
        rw [find?_modify s id x hid]
        by_cases hx : x = id
        · subst hx
          rw [if_pos rfl, hfind]
          exact .granted (redeems_of_nextCode? hnext)
        · rw [if_neg hx]
          exact .kept nofun nofun rfl (if_neg (Ne.symm hx))

theorem Distinct.activate {s : Store} (h : s.Distinct) {γ : Type}
    (refuse : Uuid → String → γ → Bool × γ) (id : Uuid) (g : γ) :
    (s.activate refuse id g).2.1.Distinct := by
  unfold Store.activate
  cases s.find? id with
  | none => exact h
  | some p =>
    cases hnext : nextCode? p.codes with
    | none => simpa [hnext] using h
    | some code =>
      simp only [hnext]
      split
      · exact h
      · exact h.modify id fun _ => rfl

end Store

namespace Environment

/-- A creation brings in the promotion that the request draws up, under the identifier that is
minted. -/
theorem turns_create (e : Environment) (company : Uuid) (r : CreateRequest) (x : Uuid) :
    Served.Turns x ⟨.create company r, (e.perform (Service.create company r)).1,
      (e.perform (Service.create company r)).2.store⟩ (e.store.find? x)
        ((e.perform (Service.create company r)).2.store.find? x) := by
  unfold Service.create
  cases hdraft : r.draft company with
  | error v => exact .kept nofun nofun rfl rfl
  | ok d =>
    obtain ⟨store, refuses, cache, directory, gate, supply, tally⟩ := e
    cases refuses with
    | true => exact .kept nofun nofun rfl rfl
    | false =>
      let id := supply.take.1.1
      let p := d.promotion id supply.take.1.2 d.budget.pool
      change Served.Turns x ⟨.create company r, .ok id, store.insert p⟩ (store.find? x)
        ((store.insert p).find? x)
      have hid : p.id = id := rfl
      rw [Store.find?_insert, hid]
      by_cases hx : x = id
      · subst hx
        rw [if_pos rfl]
        exact .created hdraft
      · rw [if_neg hx]
        exact .kept (fun h => hx (Option.some.inj h).symm) nofun rfl rfl

theorem distinct_create (e : Environment) (company : Uuid) (r : CreateRequest)
    (h : e.store.Distinct) : (e.perform (Service.create company r)).2.store.Distinct := by
  rcases store_perform_create e company r with hsame | ⟨p, -, hinsert⟩
  · rwa [hsame]
  · rw [hinsert]
    exact h.insert p

/-- An operation that only reads leaves the store as it is. -/
theorem store_throughCache_of_reads {o : Operation} (ho : o.reads = true) (faults : List Bool)
    (e : Environment) : (e.throughCache faults o).2.store = e.store :=
  congrArg (·.store) (bare_throughCache_of_reads ho faults e)

/-- Any other has the result, and leaves the store, that it has and leaves without a cache. -/
theorem throughCache_of_writes {o : Operation} (ho : o.reads = false) (faults : List Bool)
    (e : Environment) : (e.throughCache faults o).1 = (e.perform o.plain).1 ∧
      (e.throughCache faults o).2.store = (e.perform o.plain).2.store := by
  have hget : ∀ id company, o ≠ .get id company := by
    rintro id company rfl
    cases ho
  obtain ⟨hresult, hbare⟩ := run_erased (Operation.action_erases hget)
    (rfl : e.bare = e.bare) faults
  exact ⟨hresult, congrArg (·.store) hbare⟩

/-- What an operation makes of the store, whatever the cache holds and whichever of its operations
fail. -/
theorem follows_throughCache (e : Environment) (faults : List Bool) (o : Operation) :
    Served.Follows ⟨o, (e.throughCache faults o).1, (e.throughCache faults o).2.store⟩
      e.store := by
  cases hreads : o.reads with
  | true =>
    rw [store_throughCache_of_reads hreads]
    refine ⟨fun x => ?_, id⟩
    cases o with
    | get _ _ | list _ _ _ _ | count _ _ => exact .kept nofun nofun rfl rfl
    | create _ _ | update _ _ _ | delete _ _ | activate _ => cases hreads
  | false =>
    obtain ⟨hresult, hstore⟩ := throughCache_of_writes hreads faults e
    rw [hresult, hstore]
    cases o with
    | get _ _ | list _ _ _ _ | count _ _ => cases hreads
    | create company r => exact ⟨e.turns_create company r, e.distinct_create company r⟩
    | update id company r =>
      simp only [Operation.plain]
      cases hchanges : r.changes with
      | error v =>
        exact ⟨fun x => .of_refused_update id company r (.ofViolation v) e.store x _, fun h => h⟩
      | ok content =>
        exact ⟨e.store.turns_update hchanges id company, fun h => h.update id company content⟩
    | delete id company => exact ⟨e.store.turns_delete id company, fun h => h.delete id company⟩
    | activate id =>
      let refuse (id : Uuid) (code : String) (g : ScriptedGate) := g.decide id code
      exact ⟨e.store.turns_activate refuse e.gate id, fun h => h.activate refuse id e.gate⟩

end Environment

/-! ### Histories -/

namespace Store

def after (s : Store) (served : List Served) : Store := (served.getLast?.map (·.store)).getD s

/-- Each operation follows from the store that those before it have left. -/
def Records (s : Store) : List Served → Prop
  | [] => True
  | t :: ts => t.Follows s ∧ t.store.Records ts

variable {s : Store} {a b : List Served}

@[simp] theorem after_nil (s : Store) : s.after [] = s := rfl

@[simp] theorem after_cons (s : Store) (t : Served) (ts : List Served) :
    s.after (t :: ts) = t.store.after ts := by
  cases h : ts.getLast? <;> simp [after, List.getLast?_cons, h]

theorem after_append (s : Store) (a b : List Served) : s.after (a ++ b) = (s.after a).after b := by
  induction a generalizing s with
  | nil => rfl
  | cons t ts ih => simpa using ih t.store

/-- A history is sound exactly if its parts are, the second one from where the first one has
ended. -/
theorem records_append : s.Records (a ++ b) ↔ s.Records a ∧ (s.after a).Records b := by
  induction a generalizing s with
  | nil => simp [Records]
  | cons t ts ih => simp [Records, ih, and_assoc]

end Store

/-- What is served in a serial run is a history. -/
theorem Environment.records_serial (e : Environment) (events : List Event) :
    e.store.Records (e.serial throughCache events) := by
  induction events generalizing e with
  | nil => trivial
  | cons event events ih =>
    have hrest := ih (e.after throughCache event)
    cases event with
    | call o faults => exact ⟨e.follows_throughCache faults o, hrest⟩
    | seed key text => exact hrest
    | surround directory refusesCodes gate supply => exact hrest

end Memory

/-! ### Lives -/

namespace Promotion

def redemptionsOf (p : Promotion) (code : String) : Int :=
  ((p.codes.filter (·.code = code)).map (·.activations.toInt)).sum

def redemptions (p : Promotion) : Int := (p.codes.map (·.activations.toInt)).sum

/-- What becomes of a promotion while operations are served. -/
structure Ages (p : Promotion) (served : List Memory.Served) (q : Promotion) : Prop where
  lasting : q.lasting = p.lasting
  /-- The content is the one that was asked for last. -/
  content : q.content = (served.filterMap (·.rewritten? p.id)).getLast?.getD p.content
  /-- No row has fewer activations than before. -/
  grown : ∀ (i : Nat) (c : CodeCount), p.codes[i]? = some c →
    ∃ d, q.codes[i]? = some d ∧ c.activations ≤ d.activations
  redemptionsOf : ∀ code, q.redemptionsOf code =
    p.redemptionsOf code + (served.filterMap (·.granted? p.id)).count code
  redemptions : q.redemptions = p.redemptions + (served.filterMap (·.granted? p.id)).length

theorem id_eq_of_lasting {p q : Promotion} (h : q.lasting = p.lasting) : q.id = p.id :=
  congrArg (·.1) h

namespace Redeems

variable {p q : Promotion} {code : String}

theorem lasting (h : p.Redeems code q) : q.lasting = p.lasting := by
  obtain ⟨before, c, n, after, hcodes, -, -, -, rfl⟩ := h
  simp [Promotion.lasting, hcodes, CodeCount.issued]

/-- No row counts less after a redemption. -/
theorem grown (h : p.Redeems code q) (i : Nat) (c : CodeCount) (hc : p.codes[i]? = some c) :
    ∃ d, q.codes[i]? = some d ∧ c.activations ≤ d.activations := by
  obtain ⟨before, k, n, after, hcodes, -, hn, -, rfl⟩ := h
  have hle : k.activations ≤ n := by
    rw [Int64.le_iff_toInt_le]
    omega
  rw [hcodes] at hc
  rcases Nat.lt_trichotomy i before.length with hi | rfl | hi
  · rw [List.getElem?_append_left hi] at hc
    exact ⟨c, (List.getElem?_append_left hi).trans hc, Int64.le_refl _⟩
  · rw [List.getElem?_append_right (Nat.le_refl _), Nat.sub_self] at hc
    obtain rfl := Option.some.inj hc
    exact ⟨{ k with activations := n }, by simp, hle⟩
  · obtain ⟨j, rfl⟩ := Nat.exists_eq_add_of_lt hi
    simp only [List.getElem?_append_right (by omega : before.length ≤ before.length + j + 1),
      (by omega : before.length + j + 1 - before.length = j + 1), List.getElem?_cons_succ] at hc ⊢
    exact ⟨c, hc, Int64.le_refl _⟩

/-- A redemption adds one to the sum of all rows. -/
theorem redemptions (h : p.Redeems code q) : q.redemptions = p.redemptions + 1 := by
  obtain ⟨before, c, n, after, hcodes, -, hn, -, rfl⟩ := h
  simp only [Promotion.redemptions, hcodes, List.map_append, List.map_cons, List.sum_append,
    List.sum_cons, hn]
  omega

/-- A redemption adds one to the sum of the rows with its code, and nothing to the others. -/
theorem redemptionsOf (h : p.Redeems code q) (x : String) :
    q.redemptionsOf x = p.redemptionsOf x + [code].count x := by
  obtain ⟨before, c, n, after, hcodes, rfl, hn, -, rfl⟩ := h
  by_cases hx : c.code = x
  · subst hx
    simp only [Promotion.redemptionsOf, hcodes, List.filter_append, List.filter_cons, decide_true,
      if_true, List.map_append, List.map_cons, List.sum_append, List.sum_cons, hn,
      List.count_singleton_self]
    omega
  · simp [Promotion.redemptionsOf, hcodes, hx]

end Redeems

namespace Ages

variable {p q r : Promotion} {a b : List Memory.Served}

theorem refl (p : Promotion) : p.Ages [] p :=
  ⟨rfl, rfl, fun _ c hc => ⟨c, hc, Int64.le_refl _⟩, fun _ => by simp, by simp⟩

/-- What has become of a promotion in two stretches has become of it in both together. -/
theorem trans (h : p.Ages a q) (h' : q.Ages b r) : p.Ages (a ++ b) r := by
  have hid := id_eq_of_lasting h.lasting
  refine ⟨h'.lasting.trans h.lasting, ?_, fun i c hc => ?_, fun code => ?_, ?_⟩
  · rw [h'.content, h.content, hid, List.filterMap_append, List.getLast?_append]
    cases (b.filterMap (·.rewritten? p.id)).getLast? <;> rfl
  · obtain ⟨d, hd, hcd⟩ := h.grown i c hc
    obtain ⟨k, hk, hdk⟩ := h'.grown i d hd
    exact ⟨k, hk, Int64.le_trans hcd hdk⟩
  · rw [h'.redemptionsOf, h.redemptionsOf, hid, List.filterMap_append, List.count_append]
    omega
  · rw [h'.redemptions, h.redemptions, hid, List.filterMap_append, List.length_append]
    omega

end Ages

end Promotion

namespace Memory

/-- The life of a promotion ends when it is removed, or replaced by a new one that was given its
identifier. -/
def Served.Ends (x : Uuid) (t : Served) : Prop := t.removed? = some x ∨ t.created? = some x

instance (x : Uuid) (t : Served) : Decidable (t.Ends x) :=
  inferInstanceAs (Decidable (t.removed? = some x ∨ t.created? = some x))

/-- A promotion ages by one operation, unless its life ends with it. -/
theorem Served.Turns.ages {t : Served} {p : Promotion} {found : Option Promotion}
    (h : t.Turns p.id (some p) found) (halive : ¬ t.Ends p.id) :
    ∃ q, found = some q ∧ p.Ages [t] q := by
  cases h with
  | created hdraft => exact absurd (Or.inr rfl) halive
  | removed howner => exact absurd (Or.inl rfl) halive
  | rewritten hchanges howner =>
    refine ⟨_, rfl, rfl, ?_, fun _ c hc => ⟨c, hc, Int64.le_refl _⟩, fun _ => ?_, ?_⟩
    · simp [rewritten?, hchanges, Except.toOption]
    · simp [granted?, Promotion.redemptionsOf]
    · simp [granted?, Promotion.redemptions]
  | @granted code s _ q hredeems =>
    have hcontent : q.content = p.content := by
      obtain ⟨before, c, n, after, -, -, -, -, rfl⟩ := hredeems
      rfl
    have hgranted :
        [(⟨.activate p.id, .ok code, s⟩ : Served)].filterMap (·.granted? p.id) = [code] := by
      simp [granted?]
    refine ⟨q, rfl, hredeems.lasting, hcontent, hredeems.grown, fun x => ?_, ?_⟩
    · rw [hgranted, hredeems.redemptionsOf]
    · rw [hgranted, hredeems.redemptions]
      rfl
  | kept hcreated hremoved hrewritten hgranted =>
    refine ⟨p, rfl, rfl, ?_, fun _ c hc => ⟨c, hc, Int64.le_refl _⟩, fun _ => ?_, ?_⟩
    · simp [hrewritten]
    · simp [hgranted]
    · simp [hgranted]

/-- A promotion is there after an operation if it was created by it, or was there and was not
removed. -/
theorem Served.Turns.isSome_iff {t : Served} {x : Uuid} {before after : Option Promotion}
    (h : t.Turns x before after) :
    after.isSome ↔ t.created? = some x ∨ before.isSome ∧ t.removed? ≠ some x := by
  cases h with
  | created _ => simp [created?]
  | rewritten _ _ => simp [created?, removed?]
  | removed _ => simp [created?, removed?]
  | granted _ => simp [created?, removed?]
  | kept hcreated hremoved _ _ => simp [hcreated, hremoved]

/-- What becomes of the codes of a promotion in an operation that does not end its life. -/
theorem Served.Turns.codes {t : Served} {x : Uuid} {p q : Promotion}
    (h : t.Turns x (some p) (some q)) (halive : ¬ t.Ends x) :
    match t.granted? x with
    | some code => p.Redeems code q
    | none => q.codes = p.codes := by
  cases h with
  | created _ => exact absurd (Or.inr rfl) halive
  | rewritten _ _ => rfl
  | granted h =>
    simp only [granted?, if_true]
    exact h
  | kept _ _ _ hgranted =>
    rw [hgranted]

namespace Store.Records

variable {s : Store} {served : List Served} {x : Uuid} {p : Promotion}

/-- A promotion ages as long as it lives. The induction is on the operations that are served. -/
theorem ages (h : s.Records served) (hp : s.find? x = some p)
    (halive : ∀ t ∈ served, ¬ t.Ends x) :
    ∃ q, (s.after served).find? x = some q ∧ p.Ages served q := by
  induction served generalizing s p with
  | nil => exact ⟨p, hp, .refl p⟩
  | cons t ts ih =>
    obtain ⟨hturns, hrest⟩ := h
    obtain ⟨-, rfl⟩ := mem_of_find? hp
    have hturn := hturns.turns p.id
    rw [hp] at hturn
    obtain ⟨q, hq, hages⟩ := hturn.ages (halive t List.mem_cons_self)
    obtain ⟨r, hr, hlater⟩ := ih hrest hq fun u hu => halive u (List.mem_cons_of_mem t hu)
    exact ⟨r, by rwa [after_cons], hages.trans hlater⟩

/-- Identifiers stay unique in a store during a whole history. -/
theorem distinct (h : s.Records served) (hs : s.Distinct) : (s.after served).Distinct := by
  induction served generalizing s with
  | nil => exact hs
  | cons t ts ih =>
    rw [after_cons]
    exact ih h.2 (h.1.distinct hs)

/-- A promotion is stored if it was created, or was stored before, and was not removed since. -/
theorem isSome_iff (h : s.Records served) (x : Uuid) : ((s.after served).find? x).isSome ↔
    (∃ before t rest, served = before ++ t :: rest ∧ t.created? = some x ∧
      ∀ u ∈ rest, u.removed? ≠ some x) ∨
    ((s.find? x).isSome ∧ ∀ u ∈ served, u.removed? ≠ some x) := by
  induction served generalizing s with
  | nil => simp
  | cons t ts ih =>
    rw [after_cons, ih h.2, (h.1.turns x).isSome_iff]
    constructor
    · rintro (⟨before, u, rest, rfl, hu, hrest⟩ | ⟨hcreated | ⟨hfound, hkept⟩, hts⟩)
      · exact Or.inl ⟨t :: before, u, rest, rfl, hu, hrest⟩
      · exact Or.inl ⟨[], t, ts, rfl, hcreated, hts⟩
      · exact Or.inr ⟨hfound, List.forall_mem_cons.mpr ⟨hkept, hts⟩⟩
    · rintro (⟨before, u, rest, hsplit, hu, hrest⟩ | ⟨hfound, hall⟩)
      · cases before with
        | nil =>
          obtain ⟨rfl, rfl⟩ := List.cons.inj hsplit
          exact Or.inr ⟨Or.inl hu, hrest⟩
        | cons _ before =>
          obtain ⟨-, rfl⟩ := List.cons.inj hsplit
          exact Or.inl ⟨before, u, rest, rfl, hu, hrest⟩
      · obtain ⟨hkept, hts⟩ := List.forall_mem_cons.mp hall
        exact Or.inr ⟨Or.inr ⟨hfound, hkept⟩, hts⟩

end Store.Records

/-- What a history says of the promotions that it is about, when the store was empty in the
beginning. -/
structure Lives (served : List Served) : Prop where
  /-- A promotion comes into the store as the one that its company has asked for, with nothing
  redeemed. -/
  created : ∀ company r x s, ⟨.create company r, .ok x, s⟩ ∈ served →
    ∃ draft now, r.draft company = .ok draft ∧
      s.find? x = some (draft.promotion x now draft.budget.pool)
  /-- From any moment to any later one in its life, what stays the same of a promotion has stayed
  the same, its content is the one that was asked for last, and its rows have been redeemed for the
  codes that were handed out. -/
  lived : ∀ before between rest x p, served = before ++ between ++ rest →
    (Store.after {} before).find? x = some p → (∀ t ∈ between, ¬ t.Ends x) →
      ∃ q, (Store.after {} (before ++ between)).find? x = some q ∧ p.Ages between q
  /-- A code that is handed out is redeemed once in one row; no other operation redeems any. -/
  redeemed : ∀ before t rest x p q, served = before ++ t :: rest →
    (Store.after {} before).find? x = some p → t.store.find? x = some q → ¬ t.Ends x →
      match t.granted? x with
      | some code => p.Redeems code q
      | none => q.codes = p.codes
  /-- What is stored was created and not removed since. -/
  stored : ∀ x, (∃ p ∈ (Store.after {} served).promotions, p.id = x) ↔
    ∃ before t rest, served = before ++ t :: rest ∧ t.created? = some x ∧
      ∀ u ∈ rest, u.removed? ≠ some x
  /-- Nothing is stored twice. -/
  distinct : (Store.after {} served).Distinct
  /-- A promotion is removed by its owner. -/
  removed : ∀ before company x s rest, served = before ++ ⟨.delete x company, .ok (), s⟩ :: rest →
    ∃ p, (Store.after {} before).find? x = some p ∧ p.companyId = company

/-- From an empty store on, the whole history tells what becomes of each promotion. -/
theorem Store.Records.lives {served : List Served} (h : Store.Records {} served) :
    Lives served := by
  refine ⟨?_, ?_, ?_, fun x => ?_, h.distinct List.nodup_nil, ?_⟩
  · intro company r x s hmem
    obtain ⟨before, rest, rfl⟩ := List.append_of_mem hmem
    have hturns := (records_append.mp h).2.1.turns x
    generalize (Store.after {} before).find? x = found at hturns
    generalize hafter : s.find? x = found' at hturns
    cases hturns with
    | created hdraft => exact ⟨_, _, hdraft, rfl⟩
    | kept hcreated _ _ _ => exact absurd rfl hcreated
  · intro before between rest x p hsplit hp halive
    rw [hsplit, List.append_assoc, records_append, records_append] at h
    rw [after_append]
    exact h.2.1.ages hp halive
  · intro before t rest x p q hsplit hp hq halive
    rw [hsplit, records_append] at h
    have hturns := h.2.1.turns x
    rw [hp, hq] at hturns
    exact hturns.codes halive
  · have hiff := h.isSome_iff x
    have hnone : (find? {} x).isSome = false := rfl
    rw [hnone, Bool.false_eq_true, false_and, or_false] at hiff
    rw [← hiff, find?, List.find?_isSome]
    simp
  · intro before company x s rest hsplit
    rw [hsplit, records_append] at h
    have hturns := h.2.1.turns x
    generalize (Store.after {} before).find? x = found at hturns ⊢
    generalize s.find? x = found' at hturns
    cases hturns with
    | removed howner => exact ⟨_, rfl, howner⟩
    | kept _ hremoved _ _ => exact absurd rfl hremoved

namespace Environment

/-- The bakery creates a promotion with two codes, changes it, and hands out both. Another company
tries to change it, and a third code is asked for. -/
def soldOut : List Event :=
  let content (description : String) : Content := ⟨description, none, {}, none, none⟩
  let change (description : String) : UpdateRequest :=
    ⟨content description, none, none, none, none⟩
  [.call (.create (Supply.idAt 7)
      ⟨"UNIQUE", none, some ["ONE", "TWO"], none, content "Dez por cento"⟩) [],
    .call (.activate (Supply.idAt 1)) [],
    .call (.update (Supply.idAt 1) (Supply.idAt 7) (change "Vinte por cento")) [true],
    .call (.update (Supply.idAt 1) (Supply.idAt 8) (change "Nada por cento")) [],
    .call (.activate (Supply.idAt 1)) [], .call (.activate (Supply.idAt 1)) []]

end Environment

end Memory

end Promotions
