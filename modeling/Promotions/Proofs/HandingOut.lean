import Promotions.Http.Api
import Promotions.Proofs.Histories

/-!
How the codes of a promotion are handed out in a serial run. After so many grants the rows are
filled one after another: those that are full, one that may be partly so, and those that are
untouched. So the code of a grant depends on its number alone, and what a customer is told of an
activation is what has become of the rows.
-/

namespace Promotions

open Memory (Store Environment hasRoom redeemed nextCode? redeemNext)

/-! ### Rows filled one after another -/

def NewCode.limit (c : NewCode) : Nat := c.maxCount.toInt.toNat

def capacity (pool : List NewCode) : Nat := (pool.map NewCode.limit).sum

/-- The code of the `n`-th grant, counted from one: that of the row which the rows before it leave
the grant to, and which still has room for it. -/
def NthCode (pool : List NewCode) (n : Nat) (code : String) : Prop :=
  ∃ i c, pool[i]? = some c ∧ c.code = code ∧ capacity (pool.take i) < n ∧
    n ≤ capacity (pool.take (i + 1))

/-- A row of which so many activations are used, or all if there are fewer. -/
def NewCode.used (c : NewCode) (n : Nat) : CodeCount :=
  ⟨c.code, .ofNat (min n c.limit), c.maxCount⟩

/-- The rows after so many grants. -/
def dealt : Nat → List NewCode → List CodeCount
  | _, [] => []
  | n, c :: cs => c.used n :: dealt (n - c.limit) cs

def codeAfter? : Nat → List NewCode → Option String
  | _, [] => none
  | n, c :: cs => if n < c.limit then some c.code else codeAfter? (n - c.limit) cs

namespace NewCode

theorem toInt_used (c : NewCode) (n : Nat) :
    (c.used n).activations.toInt = (min n c.limit : Nat) := by
  have hlt := c.maxCount.toInt_lt
  apply Int64.toInt_ofNat_of_lt
  rw [limit]
  omega

theorem hasRoom_used (c : NewCode) (n : Nat) : hasRoom (c.used n) = true ↔ n < c.limit := by
  have hused := c.toInt_used n
  have hlimit : c.limit = c.maxCount.toInt.toNat := rfl
  change decide ((c.used n).activations < c.maxCount) = true ↔ _
  rw [decide_eq_true_eq, Int64.lt_iff_toInt_lt, hused]
  omega

/-- One more grant redeems a row that has room for it. -/
theorem redeemed_used {c : NewCode} {n : Nat} (h : n < c.limit) :
    redeemed (c.used n) = c.used (n + 1) := by
  have hmore : Int64.ofNat (min n c.limit) + 1 = Int64.ofNat (min (n + 1) c.limit) := by
    have hnext : n + 1 ≤ c.limit := h
    rw [Nat.min_eq_left (Nat.le_of_lt h), Nat.min_eq_left hnext, Int64.ofNat_add]
    rfl
  rw [redeemed, used, used, hmore]

/-- A row that is used up stays as it is. -/
theorem used_of_le {c : NewCode} {n m : Nat} (hn : c.limit ≤ n) (hm : c.limit ≤ m) :
    c.used n = c.used m := by
  rw [used, used, Nat.min_eq_right hn, Nat.min_eq_right hm]

end NewCode

variable {pool : List NewCode} {n : Nat}

@[simp] theorem capacity_nil : capacity [] = 0 := rfl

@[simp] theorem capacity_cons (c : NewCode) (cs : List NewCode) :
    capacity (c :: cs) = c.limit + capacity cs := rfl

theorem dealt_zero (pool : List NewCode) : dealt 0 pool = pool.map NewCode.unused := by
  induction pool with
  | nil => rfl
  | cons c cs ih =>
    rw [dealt, Nat.zero_sub, ih, NewCode.used, Nat.zero_min]
    rfl

/-- The next code of the rows after so many grants is the one that comes after them. -/
theorem nextCode?_dealt (n : Nat) (pool : List NewCode) :
    nextCode? (dealt n pool) = codeAfter? n pool := by
  induction pool generalizing n with
  | nil => rfl
  | cons c cs ih =>
    by_cases hroom : n < c.limit
    · have hfirst : hasRoom (c.used n) = true := (c.hasRoom_used n).mpr hroom
      rw [nextCode?, dealt, List.find?_cons_of_pos hfirst, codeAfter?, if_pos hroom]
      rfl
    · have hfirst : ¬ hasRoom (c.used n) = true := mt (c.hasRoom_used n).mp hroom
      rw [nextCode?, dealt, List.find?_cons_of_neg hfirst, codeAfter?, if_neg hroom, ← ih]
      rfl

/-- Handing out the next code takes the rows one grant further. -/
theorem redeemNext_dealt (h : n < capacity pool) :
    redeemNext (dealt n pool) = dealt (n + 1) pool := by
  induction pool generalizing n with
  | nil => cases h
  | cons c cs ih =>
    rw [capacity_cons] at h
    by_cases hroom : n < c.limit
    · have hfirst : hasRoom (c.used n) = true := (c.hasRoom_used n).mpr hroom
      have hrest : n + 1 - c.limit = n - c.limit := by omega
      rw [dealt, redeemNext, if_pos hfirst, NewCode.redeemed_used hroom, dealt, hrest]
    · have hfirst : ¬ hasRoom (c.used n) = true := mt (c.hasRoom_used n).mp hroom
      have hrest : n + 1 - c.limit = n - c.limit + 1 := by omega
      rw [dealt, redeemNext, if_neg hfirst, ih (by omega), dealt, hrest,
        NewCode.used_of_le (by omega) (by omega : c.limit ≤ n + 1)]

/-- No code is left exactly if the grants have reached the capacity. -/
theorem codeAfter?_eq_none_iff : codeAfter? n pool = none ↔ capacity pool ≤ n := by
  induction pool generalizing n with
  | nil => simp [codeAfter?]
  | cons c cs ih =>
    rw [codeAfter?, capacity_cons]
    split
    · simp
      omega
    · rw [ih]
      omega

/-- The first row is left to the grants that it has room for, the rows after it to the others. -/
theorem nthCode_cons_iff {c : NewCode} {cs : List NewCode} {code : String} :
    NthCode (c :: cs) (n + 1) code ↔
      if n < c.limit then c.code = code else NthCode cs (n - c.limit + 1) code := by
  split
  · rename_i hroom
    constructor
    · rintro ⟨i, d, hd, rfl, hlow, -⟩
      cases i with
      | zero => exact congrArg NewCode.code (Option.some.inj hd)
      | succ i =>
        rw [List.take_succ_cons, capacity_cons] at hlow
        omega
    · rintro rfl
      refine ⟨0, c, rfl, rfl, Nat.succ_pos n, ?_⟩
      rw [List.take_succ_cons, capacity_cons]
      omega
  · rename_i hfull
    constructor
    · rintro ⟨i, d, hd, rfl, hlow, hhigh⟩
      rw [List.take_succ_cons, capacity_cons] at hhigh
      cases i with
      | zero =>
        rw [List.take_zero, capacity_nil] at hhigh
        omega
      | succ i =>
        rw [List.take_succ_cons, capacity_cons] at hlow
        exact ⟨i, d, hd, rfl, by omega, by omega⟩
    · rintro ⟨i, d, hd, rfl, hlow, hhigh⟩
      refine ⟨i + 1, d, hd, rfl, ?_, ?_⟩
      · rw [List.take_succ_cons, capacity_cons]
        omega
      · rw [List.take_succ_cons, capacity_cons]
        omega

/-- The code of the next grant, told by sums over the rows before it, is the one that the rows hand
out. -/
theorem nthCode_iff {code : String} :
    NthCode pool (n + 1) code ↔ codeAfter? n pool = some code := by
  induction pool generalizing n with
  | nil => simp [NthCode, codeAfter?]
  | cons c cs ih =>
    rw [nthCode_cons_iff, codeAfter?]
    split
    · rw [Option.some.injEq]
    · exact ih

/-- Different reports read differently. -/
theorem ActivationReport.toJson_injective (a : ActivationReport) {b : ActivationReport}
    (h : a.toJson = b.toJson) : a = b := by
  obtain ⟨success, code, reason⟩ := a
  obtain ⟨success', code', reason'⟩ := b
  cases code <;> cases code' <;> cases reason <;> cases reason' <;>
    simp_all [toJson, ActivationReason.label]

namespace Memory

/-! ### One activation -/

/-- What an activation comes to in the store, and what it leaves of the store and the gate. -/
inductive Store.Activates (s : Store) {γ : Type} (refuse : Uuid → String → γ → Bool × γ)
    (id : Uuid) (g : γ) : Except Failure String → Store → γ → Prop
  | absent (hfind : s.find? id = none) :
      Activates s refuse id g (.error .promotionNotFound) s g
  | exhausted {p : Promotion} (hfind : s.find? id = some p) (hnext : nextCode? p.codes = none) :
      Activates s refuse id g (.error .exhausted) s g
  | refused {p : Promotion} {code : String} (hfind : s.find? id = some p)
      (hnext : nextCode? p.codes = some code) (hrefused : (refuse id code g).1 = true) :
      Activates s refuse id g (.error .rejectedByGate) s (refuse id code g).2
  | granted {p : Promotion} {code : String} (hfind : s.find? id = some p)
      (hnext : nextCode? p.codes = some code) (hallowed : (refuse id code g).1 = false) :
      Activates s refuse id g (.ok code)
        (s.modify id fun p => { p with codes := redeemNext p.codes }) (refuse id code g).2

/-- An activation in the store is one of those that can be told apart. -/
theorem Store.activates_activate (s : Store) {γ : Type} (refuse : Uuid → String → γ → Bool × γ)
    (id : Uuid) (g : γ) : s.Activates refuse id g (s.activate refuse id g).1
      (s.activate refuse id g).2.1 (s.activate refuse id g).2.2 := by
  unfold activate
  cases hfind : s.find? id with
  | none => exact .absent hfind
  | some p =>
    cases hnext : nextCode? p.codes with
    | none =>
      simp only [hnext]
      exact .exhausted hfind hnext
    | some code =>
      simp only [hnext]
      cases hdecided : (refuse id code g).1 with
      | true => exact .refused hfind hnext hdecided
      | false => exact .granted hfind hnext hdecided

/-- What it comes to for a promotion that is stored. -/
theorem Store.Activates.stored {s store : Store} {γ : Type} {refuse : Uuid → String → γ → Bool × γ}
    {id : Uuid} {g gate : γ} {result : Except Failure String} {p : Promotion}
    (h : s.Activates refuse id g result store gate) (hp : s.find? id = some p) :
    nextCode? p.codes = none ∧ result = .error .exhausted ∧ gate = g ∨
      ∃ code, nextCode? p.codes = some code ∧ gate = (refuse id code g).2 ∧
        (result = .error .rejectedByGate ∨ result = .ok code ∧
          store = s.modify id fun p => { p with codes := redeemNext p.codes }) := by
  cases h with
  | absent hfind => simp [hfind] at hp
  | @exhausted q hfind hnext =>
    obtain rfl : p = q := Option.some.inj (hp.symm.trans hfind)
    exact Or.inl ⟨hnext, rfl, rfl⟩
  | @refused q code hfind hnext _ =>
    obtain rfl : p = q := Option.some.inj (hp.symm.trans hfind)
    exact Or.inr ⟨code, hnext, rfl, Or.inl rfl⟩
  | @granted q code hfind hnext _ =>
    obtain rfl : p = q := Option.some.inj (hp.symm.trans hfind)
    exact Or.inr ⟨code, hnext, rfl, Or.inr ⟨rfl, rfl⟩⟩

theorem Store.find?_redeemed {s : Store} {x : Uuid} {p : Promotion} (hp : s.find? x = some p) :
    (s.modify x fun p => { p with codes := redeemNext p.codes }).find? x =
      some { p with codes := redeemNext p.codes } := by
  have hid (p : Promotion) : { p with codes := redeemNext p.codes }.id = p.id := rfl
  rw [find?_modify s x x hid, if_pos rfl, hp]
  rfl

/-- Only an activation hands out a code. -/
theorem Served.eq_of_granted? {t : Served} {x : Uuid} {code : String}
    (h : t.granted? x = some code) : t = ⟨.activate x, .ok code, t.store⟩ := by
  unfold granted? at h
  split at h
  · split at h
    · rename_i hid
      subst hid
      rw [Option.some.inj h]
    · cases h
  · cases h

namespace Environment

/-- What an activation comes to, whatever the cache holds and whichever of its operations fail. -/
theorem activates_throughCache (e : Environment) (faults : List Bool) (x : Uuid) :
    e.store.Activates (fun id code (g : ScriptedGate) => g.decide id code) x e.gate
      (e.throughCache faults (.activate x)).1 (e.throughCache faults (.activate x)).2.store
      (e.throughCache faults (.activate x)).2.gate := by
  let refuse (id : Uuid) (code : String) (g : ScriptedGate) := g.decide id code
  have hget : ∀ id company, Operation.activate x ≠ .get id company := fun _ _ => nofun
  obtain ⟨hresult, hbare⟩ := run_erased (Operation.action_erases hget)
    (rfl : e.bare = e.bare) faults
  have hresult : (e.throughCache faults (.activate x)).1 = (e.store.activate refuse x e.gate).1 :=
    hresult
  have hstore : (e.throughCache faults (.activate x)).2.store =
      (e.store.activate refuse x e.gate).2.1 := congrArg (·.store) hbare
  have hgate : (e.throughCache faults (.activate x)).2.gate =
      (e.store.activate refuse x e.gate).2.2 := congrArg (·.gate) hbare
  rw [hresult, hstore, hgate]
  exact e.store.activates_activate refuse x e.gate

/-! ### Runs -/

def reached (serve : Manner) (e : Environment) (events : List Event) : Environment :=
  events.foldl (fun e event => e.after serve event) e

/-- The codes of a promotion that were handed out in a serial run, in the order of the grants. -/
def grants (e : Environment) (x : Uuid) (events : List Event) : List String :=
  (e.serial throughCache events).filterMap (·.granted? x)

/-- Rows of a promotion that are filled as far as so many grants go. -/
def Dealt (e : Environment) (x : Uuid) (pool : List NewCode) (n : Nat) : Prop :=
  ∃ p, e.store.find? x = some p ∧ p.codes = dealt n pool

section

variable {e : Environment} {x : Uuid} {pool : List NewCode} {n : Nat}

/-- A grant is the one that comes next. -/
theorem Dealt.granted (h : e.Dealt x pool n) {faults : List Bool} {code : String}
    (hgranted : (e.throughCache faults (.activate x)).1 = .ok code) :
    codeAfter? n pool = some code ∧
      (e.throughCache faults (.activate x)).2.Dealt x pool (n + 1) := by
  obtain ⟨p, hp, hcodes⟩ := h
  have hstored := (e.activates_throughCache faults x).stored hp
  rw [hgranted, hcodes, nextCode?_dealt] at hstored
  obtain ⟨-, hresult, -⟩ | ⟨next, hnext, -, hresult | ⟨hresult, hstore⟩⟩ := hstored
  · cases hresult
  · cases hresult
  · obtain rfl := Except.ok.inj hresult
    have hroom : n < capacity pool := by
      apply Nat.lt_of_not_le
      intro hfull
      rw [codeAfter?_eq_none_iff.mpr hfull] at hnext
      cases hnext
    refine ⟨hnext, { p with codes := redeemNext p.codes }, ?_, ?_⟩
    · rw [hstore]
      exact Store.find?_redeemed hp
    · rw [← redeemNext_dealt hroom, ← hcodes]

/-- An operation after which the promotion still lives hands out the code of the next grant, or it
hands out none and leaves the rows as they are. -/
theorem Dealt.serve (h : e.Dealt x pool n) {faults : List Bool} {o : Operation}
    (halive : ¬ Served.Ends x
      ⟨o, (e.throughCache faults o).1, (e.throughCache faults o).2.store⟩) :
    match Served.granted? x ⟨o, (e.throughCache faults o).1, (e.throughCache faults o).2.store⟩ with
    | some code => codeAfter? n pool = some code ∧ (e.throughCache faults o).2.Dealt x pool (n + 1)
    | none => (e.throughCache faults o).2.Dealt x pool n := by
  split
  · rename_i code hgranted
    have hserved := Served.eq_of_granted? hgranted
    obtain rfl : o = .activate x := congrArg (·.operation) hserved
    simp only [Served.mk.injEq, heq_eq_eq, true_and, and_true] at hserved
    exact h.granted hserved
  · rename_i hnone
    obtain ⟨p, hp, hcodes⟩ := h
    have hturns := (e.follows_throughCache faults o).turns x
    rw [hp] at hturns
    have hfound := hturns.isSome_iff.mpr
      (Or.inr ⟨rfl, fun hremoved => halive (Or.inl hremoved)⟩)
    obtain ⟨q, hq⟩ := Option.isSome_iff_exists.mp hfound
    have hq : (e.throughCache faults o).2.store.find? x = some q := hq
    dsimp only at hturns
    rw [hq] at hturns
    have hkept := hturns.codes halive
    rw [hnone] at hkept
    exact ⟨q, hq, hkept.trans hcodes⟩

/-- The codes that an operation hands out come before those of the later events. -/
theorem grants_call (e : Environment) (x : Uuid) (o : Operation) (faults : List Bool)
    (events : List Event) : e.grants x (.call o faults :: events) =
      (Served.granted? x ⟨o, (e.throughCache faults o).1, (e.throughCache faults o).2.store⟩).toList
        ++ (e.throughCache faults o).2.grants x events := by
  rw [grants, serial, List.filterMap_append]
  rfl

/-- In a run through which the promotion lives, each grant is the one that comes next. -/
theorem Dealt.run (h : e.Dealt x pool n) {events : List Event}
    (halive : ∀ t ∈ e.serial throughCache events, ¬ t.Ends x) :
    (e.reached throughCache events).Dealt x pool (n + (e.grants x events).length) ∧
      ∀ i code, (e.grants x events)[i]? = some code → codeAfter? (n + i) pool = some code := by
  induction events generalizing e n with
  | nil => exact ⟨h, nofun⟩
  | cons event events ih =>
    cases event with
    | call o faults =>
      obtain ⟨hone, hrest⟩ := List.forall_mem_cons.mp halive
      have hstep := h.serve hone
      rw [grants_call]
      cases hgranted : Served.granted? x
          ⟨o, (e.throughCache faults o).1, (e.throughCache faults o).2.store⟩ with
      | none =>
        rw [hgranted] at hstep
        exact ih hstep hrest
      | some code =>
        rw [hgranted] at hstep
        obtain ⟨hcode, hdealt⟩ := hstep
        obtain ⟨hafter, hgrants⟩ := ih hdealt hrest
        constructor
        · rw [Option.toList_some, List.length_append, List.length_singleton, ← Nat.add_assoc]
          exact hafter
        · intro i code' hi
          cases i with
          | zero =>
            obtain rfl := Option.some.inj hi
            exact hcode
          | succ i =>
            rw [← hgrants i code' hi]
            congr 1
            omega
    | seed key text => exact ih h halive
    | surround directory refusesCodes gate supply => exact ih h halive

/-! ### What customers are told -/

/-- A request answered by the service; it is written down which operations of the cache fail. -/
def responded (e : Environment) (faults : List Bool) (r : Http.Request) :
    Http.Response × Environment :=
  let (response, _, e) := (Http.respond r).run answerFaulty (faults, e)
  (response, e)

def told (outcome : Except Failure String) : Http.Response :=
  Http.answered (Http.activationReport outcome) fun report => .ofJson 200 report.toJson

/-- A request for an activation is answered with what the activation has come to. -/
theorem responded_activation {r : Http.Request} {segment : List Char}
    (hroute : Http.Route.ofPath? r.path = some (.activation segment)) (hmethod : r.method = "POST")
    (hid : Http.promotionId segment = .ok x) (e : Environment) (faults : List Bool) :
    e.responded faults r =
      (told (e.throughCache faults (.activate x)).1, (e.throughCache faults (.activate x)).2) := by
  have hrespond : Http.respond r = Service.activate x >>= fun outcome => pure (told outcome) := by
    simp only [Http.respond, hroute, hmethod, Http.Route.methods, Http.serve, Http.activate, hid]
    rfl
  rw [responded, hrespond, Dialogue.run_bind]
  rfl

end

/-- Two reports with the same response are the same report. -/
theorem told_eq_iff {outcome : Except Failure String} {report : ActivationReport} :
    told outcome = .ofJson 200 report.toJson ↔ Http.activationReport outcome = .ok report := by
  rw [told]
  cases Http.activationReport outcome with
  | ok report' =>
    constructor
    · intro h
      rw [report'.toJson_injective (Http.Body.json.inj (congrArg (·.body) h))]
    · intro h
      rw [Except.ok.inj h]
      rfl
  | error f =>
    constructor
    · intro h
      exact absurd (congrArg (·.status) h) f.status_ne_ok
    · exact nofun

/-- The status says whether the outcome is one of those that a customer is told of. -/
theorem status_told (outcome : Except Failure String) :
    (told outcome).status =
      match outcome with
      | .ok _ | .error .exhausted | .error .rejectedByGate => 200
      | .error f => f.status := by
  cases outcome with
  | ok code => rfl
  | error f => cases f <;> rfl

theorem told_eq_granted_iff {outcome : Except Failure String} {code : String} :
    told outcome = .ofJson 200 (ActivationReport.granted code).toJson ↔ outcome = .ok code := by
  rw [told_eq_iff]
  cases outcome with
  | ok c => simp [Http.activationReport, ActivationReport.granted]
  | error f => cases f <;> simp [Http.activationReport, ActivationReport.granted,
      ActivationReport.refused]

theorem told_eq_refused_iff {outcome : Except Failure String} :
    told outcome = .ofJson 200 (ActivationReport.refused .rejectedByGate).toJson ↔
      outcome = .error .rejectedByGate := by
  rw [told_eq_iff]
  cases outcome with
  | ok c => simp [Http.activationReport, ActivationReport.granted, ActivationReport.refused]
  | error f => cases f <;> simp [Http.activationReport, ActivationReport.refused]

theorem told_eq_exhausted_iff {outcome : Except Failure String} :
    told outcome = .ofJson 200 (ActivationReport.refused .exhausted).toJson ↔
      outcome = .error .exhausted := by
  rw [told_eq_iff]
  cases outcome with
  | ok c => simp [Http.activationReport, ActivationReport.granted, ActivationReport.refused]
  | error f => cases f <;> simp [Http.activationReport, ActivationReport.refused]

/-- What the response to an activation says is what has become of the promotion: a code is told
exactly if a row for it has one activation more, and otherwise every row is as it was. -/
structure Truthful (e : Environment) (x : Uuid) (response : Http.Response) (after : Environment) :
    Prop where
  granted : ∀ code, response = .ofJson 200 (ActivationReport.granted code).toJson ↔
    ∃ p q, e.store.find? x = some p ∧ after.store.find? x = some q ∧ p.Redeems code q
  refused : response = .ofJson 200 (ActivationReport.refused .rejectedByGate).toJson ↔
    ∃ p code, e.store.find? x = some p ∧ nextCode? p.codes = some code ∧
      (e.gate.decide x code).1 = true
  exhausted : response = .ofJson 200 (ActivationReport.refused .exhausted).toJson ↔
    ∃ p, e.store.find? x = some p ∧ nextCode? p.codes = none
  absent : response.status = 404 ↔ e.store.find? x = none
  unchanged : (∀ code, response ≠ .ofJson 200 (ActivationReport.granted code).toJson) →
    after.store = e.store

/-- The response to an activation can be trusted, since the store changes only where a code is
handed out. -/
theorem truthful_of_activates {e after : Environment} {x : Uuid}
    {outcome : Except Failure String}
    (h : e.store.Activates (fun id code (g : ScriptedGate) => g.decide id code) x e.gate outcome
      after.store after.gate) : Truthful e x (told outcome) after := by
  have hkept (hstore : after.store = e.store) (code : String) : ¬ ∃ p q,
      e.store.find? x = some p ∧ after.store.find? x = some q ∧ p.Redeems code q := by
    rintro ⟨p, q, hp, hq, hredeems⟩
    rw [hstore, hp, Option.some.injEq] at hq
    subst hq
    have hmore := hredeems.redemptions
    omega
  generalize hstore : after.store = store at h
  generalize after.gate = gate at h
  constructor
  case granted =>
    intro code
    rw [told_eq_granted_iff]
    cases h with
    | absent hfind => simpa using hkept hstore code
    | exhausted hfind hnext => simpa using hkept hstore code
    | refused hfind hnext hrefused => simpa using hkept hstore code
    | @granted p code' hfind hnext hallowed =>
      have hredeems := redeems_of_nextCode? hnext
      have hafter := Store.find?_redeemed hfind
      rw [← hstore] at hafter
      constructor
      · intro hsame
        obtain rfl := Except.ok.inj hsame
        exact ⟨p, _, hfind, hafter, hredeems⟩
      · rintro ⟨p', q, hp, hq, hother⟩
        obtain rfl : p = p' := Option.some.inj (hfind.symm.trans hp)
        obtain rfl := Option.some.inj (hafter.symm.trans hq)
        -- The row that has one activation more is one for either code.
        have hone := hredeems.redemptionsOf code'
        have hother := hother.redemptionsOf code'
        rw [List.count_singleton_self] at hone
        rw [List.count_singleton] at hother
        split at hother
        · rename_i hcode
          rw [eq_of_beq hcode]
        · omega
  case refused =>
    rw [told_eq_refused_iff]
    cases h with
    | absent hfind => simp [hfind]
    | exhausted hfind hnext => simp [hfind, hnext]
    | refused hfind hnext hrefused => simpa [hfind, hnext] using hrefused
    | granted hfind hnext hallowed => simpa [hfind, hnext] using hallowed
  case exhausted =>
    rw [told_eq_exhausted_iff]
    cases h with
    | absent hfind => simp [hfind]
    | exhausted hfind hnext => simp [hfind, hnext]
    | refused hfind hnext hrefused => simp [hfind, hnext]
    | granted hfind hnext hallowed => simp [hfind, hnext]
  case absent =>
    rw [status_told]
    cases h with
    | absent hfind => simp [hfind, Failure.status]
    | exhausted hfind hnext => simp [hfind]
    | refused hfind hnext hrefused => simp [hfind]
    | granted hfind hnext hallowed => simp [hfind]
  case unchanged =>
    intro hother
    cases h with
    | granted hfind hnext hallowed => exact absurd (told_eq_granted_iff.mpr rfl) (hother _)
    | _ => exact hstore

/-! ### The whole run -/

/-- How the codes of a promotion are handed out in a serial run that begins with none of them
redeemed, and what the next activation comes to. -/
structure HandsOut (e : Environment) (x : Uuid) (pool : List NewCode) (events : List Event) :
    Prop where
  inOrder : ∀ n code, (e.grants x events)[n]? = some code → NthCode pool (n + 1) code
  within : (e.grants x events).length ≤ capacity pool
  /-- While there is room, the gate is asked once, about the code of the next grant. -/
  asked : (e.grants x events).length < capacity pool →
    ∃ code, NthCode pool ((e.grants x events).length + 1) code ∧ ∀ faults,
      ((e.reached throughCache events).throughCache faults (.activate x)).2.gate.asked =
        (x, code) :: (e.reached throughCache events).gate.asked
  /-- When there is none, it is not asked. -/
  spared : (e.grants x events).length = capacity pool → ∀ faults,
    ((e.reached throughCache events).throughCache faults (.activate x)).2.gate =
      (e.reached throughCache events).gate
  /-- Customers are told so. -/
  told : ∀ faults (r : Http.Request) segment,
    Http.Route.ofPath? r.path = some (.activation segment) → r.method = "POST" →
    Http.promotionId segment = .ok x →
      (∀ code, ((e.reached throughCache events).responded faults r).1 =
          .ofJson 200 (ActivationReport.granted code).toJson ↔
        NthCode pool ((e.grants x events).length + 1) code ∧
          ∃ p q, (e.reached throughCache events).store.find? x = some p ∧
            ((e.reached throughCache events).responded faults r).2.store.find? x = some q ∧
              p.Redeems code q) ∧
      (((e.reached throughCache events).responded faults r).1 =
          .ofJson 200 (ActivationReport.refused .rejectedByGate).toJson ↔
        ∃ code, NthCode pool ((e.grants x events).length + 1) code ∧
          ((e.reached throughCache events).gate.decide x code).1 = true) ∧
      (((e.reached throughCache events).responded faults r).1 =
          .ofJson 200 (ActivationReport.refused .exhausted).toJson ↔
        (e.grants x events).length = capacity pool)

theorem asked_decide (g : ScriptedGate) (x : Uuid) (code : String) :
    (g.decide x code).2.asked = (x, code) :: g.asked := by
  unfold ScriptedGate.decide
  cases g.script <;> rfl

namespace Dealt

variable {e : Environment} {x : Uuid} {pool : List NewCode} {n : Nat}

/-- The code of the next grant is that of the first row with room. -/
theorem next (h : e.Dealt x pool n) :
    ∃ p, e.store.find? x = some p ∧ nextCode? p.codes = codeAfter? n pool := by
  obtain ⟨p, hp, hcodes⟩ := h
  refine ⟨p, hp, ?_⟩
  rw [hcodes, nextCode?_dealt]

/-- If there is a code, the gate is asked about it and about nothing else. -/
theorem asked (h : e.Dealt x pool n) {code : String} (hcode : codeAfter? n pool = some code)
    (faults : List Bool) : (e.throughCache faults (.activate x)).2.gate.asked =
      (x, code) :: e.gate.asked := by
  obtain ⟨p, hp, hnext⟩ := h.next
  have hstored := (e.activates_throughCache faults x).stored hp
  rw [hnext, hcode] at hstored
  obtain ⟨hnone, -⟩ | ⟨code', hsome, hgate, -⟩ := hstored
  · cases hnone
  · obtain rfl := Option.some.inj hsome
    rw [hgate]
    exact asked_decide e.gate x code

/-- If there is none, the gate is not asked. -/
theorem spared (h : e.Dealt x pool n) (hnone : codeAfter? n pool = none) (faults : List Bool) :
    (e.throughCache faults (.activate x)).2.gate = e.gate := by
  obtain ⟨p, hp, hnext⟩ := h.next
  have hstored := (e.activates_throughCache faults x).stored hp
  rw [hnext, hnone] at hstored
  obtain ⟨-, -, hgate⟩ | ⟨code, hsome, -⟩ := hstored
  · exact hgate
  · cases hsome

/-- In a run through which the promotion lives, no more codes are handed out than there are. -/
theorem length_le (h : e.Dealt x pool 0) {events : List Event}
    (halive : ∀ t ∈ e.serial throughCache events, ¬ t.Ends x) :
    (e.grants x events).length ≤ capacity pool := by
  apply Nat.le_of_not_lt
  intro hmore
  obtain ⟨-, hgrants⟩ := h.run halive
  have hcode := hgrants _ _ (List.getElem?_eq_getElem hmore)
  rw [Nat.zero_add, codeAfter?_eq_none_iff.mpr (Nat.le_refl _)] at hcode
  cases hcode

end Dealt

/-- The codes are handed out in order in every run from an unused pool on. The grants of the run
tell how far the pool is dealt, and the next activation follows from that. -/
theorem handsOut_of_dealt {e : Environment} {x : Uuid} {pool : List NewCode} (h : e.Dealt x pool 0)
    {events : List Event} (halive : ∀ t ∈ e.serial throughCache events, ¬ t.Ends x) :
    HandsOut e x pool events := by
  obtain ⟨hdealt, hgrants⟩ := h.run halive
  rw [Nat.zero_add] at hdealt
  have hwithin := h.length_le halive
  have hspent : codeAfter? (e.grants x events).length pool = none ↔
      (e.grants x events).length = capacity pool := by
    rw [codeAfter?_eq_none_iff]
    omega
  constructor
  case inOrder =>
    intro n code hn
    have hcode := hgrants n code hn
    rw [Nat.zero_add] at hcode
    exact nthCode_iff.mpr hcode
  case within => exact hwithin
  case asked =>
    intro hroom
    cases hcode : codeAfter? (e.grants x events).length pool with
    | none => exact absurd (hspent.mp hcode) (Nat.ne_of_lt hroom)
    | some code => exact ⟨code, nthCode_iff.mpr hcode, hdealt.asked hcode⟩
  case spared =>
    intro hfull
    exact hdealt.spared (hspent.mpr hfull)
  case told =>
    intro faults r segment hroute hmethod hid
    generalize e.reached throughCache events = z at hdealt ⊢
    have htruthful := truthful_of_activates (z.activates_throughCache faults x)
    rw [responded_activation hroute hmethod hid]
    obtain ⟨p, hp, hnext⟩ := hdealt.next
    refine ⟨fun code => ?_, ?_, ?_⟩
    · rw [nthCode_iff, htruthful.granted]
      constructor
      · intro hredeemed
        have hgranted := told_eq_granted_iff.mp ((htruthful.granted code).mpr hredeemed)
        exact ⟨(hdealt.granted hgranted).1, hredeemed⟩
      · exact And.right
    · rw [htruthful.refused]
      simp only [hp, nthCode_iff, Option.some.injEq, exists_and_left, exists_eq_left', hnext]
    · rw [htruthful.exhausted, ← hspent, ← hnext]
      simp [hp]

/-- A promotion that has just been created has had nothing redeemed. -/
theorem dealt_of_created {e : Environment} {company : Uuid} {r : CreateRequest}
    {faults : List Bool} {x : Uuid}
    (hcreated : (e.throughCache faults (.create company r)).1 = .ok x) :
    ∃ draft, r.draft company = .ok draft ∧
      (e.throughCache faults (.create company r)).2.Dealt x draft.budget.pool 0 := by
  have hturns := (e.follows_throughCache faults (.create company r)).turns x
  rw [hcreated] at hturns
  generalize e.store.find? x = found at hturns
  generalize hfound : (e.throughCache faults (.create company r)).2.store.find? x = found'
    at hturns
  cases hturns with
  | created hdraft => exact ⟨_, hdraft, _, hfound, (dealt_zero _).symm⟩
  | kept hkept _ _ _ => exact absurd rfl hkept

def twoCodes : CreateRequest :=
  ⟨"UNIQUE", none, some ["ONE", "TWO"], none, "Dez por cento", none, {}, none, none⟩

def offering : Environment := (bakery.throughCache [] (.create (Supply.idAt 7) twoCodes)).2

/-- The first code is handed out, and the gate refuses the next activation. Another promotion is
asked for, and this one is changed while the cache fails, and read. Then the second code is handed
out, and there is none for the last activation. -/
def untilNoneIsLeft : List Event :=
  let change : UpdateRequest := ⟨⟨"Vinte por cento", none, {}, none, none⟩, none, none, none, none⟩
  [.call (.activate (Supply.idAt 1)) [],
    .surround bakery.directory false { script := [true] } { count := 1 },
    .call (.activate (Supply.idAt 1)) [], .call (.activate (Supply.idAt 2)) [],
    .call (.update (Supply.idAt 1) (Supply.idAt 7) change) [true],
    .call (.get (Supply.idAt 1) (Supply.idAt 7)) [],
    .call (.activate (Supply.idAt 1)) [], .call (.activate (Supply.idAt 1)) []]

def firstRequest : Http.Request where
  method := "POST"
  target := "/api/promos/" ++ toString (Supply.idAt 1) ++ "/activate"

end Environment

end Memory

end Promotions
