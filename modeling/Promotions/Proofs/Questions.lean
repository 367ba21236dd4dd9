import Promotions.Service.Basic

/-!
What the operations of the service ask. An operation is a dialogue, so that every question it can
ever ask stands in it: codes come into the store with room or none, only an activation activates and
only a deletion deletes, and a text is put into the cache only under the key of the promotion that
was read.
-/

namespace Promotions

namespace Dialogue

variable {Ask : Type} {Answer : Ask → Type} {α β : Type}

/-- Every question that a dialogue can come to has a property, whatever is answered before. -/
def Asks (P : Ask → Prop) : Dialogue Ask Answer α → Prop
  | done _ => True
  | ask q next => P q ∧ ∀ r, (next r).Asks P

theorem asks_pure (P : Ask → Prop) (a : α) :
    (pure a : Dialogue Ask Answer α).Asks P := trivial

theorem Asks.imp {P Q : Ask → Prop} {d : Dialogue Ask Answer α} (hd : d.Asks P)
    (h : ∀ q, P q → Q q) : d.Asks Q := by
  induction d with
  | done a => trivial
  | ask q next ih => exact ⟨h q hd.1, fun r => ih r (hd.2 r)⟩

/-- A dialogue that goes on asks nothing but what it and its continuations ask. -/
theorem Asks.bind {P : Ask → Prop} {d : Dialogue Ask Answer α}
    {k : α → Dialogue Ask Answer β} (hd : d.Asks P) (hk : ∀ a, (k a).Asks P) :
    (d >>= k).Asks P := by
  induction d with
  | done a => exact hk a
  | ask q next ih => exact ⟨hd.1, fun r => ih r (hd.2 r)⟩

end Dialogue

inductive Operation where
  | create (company : Uuid) (r : CreateRequest)
  | list (company : Uuid) (countries : List String) (page : Page) (key : SortKey)
  | count (company : Uuid) (countries : List String)
  | get (id company : Uuid)
  | update (id company : Uuid) (r : UpdateRequest)
  | delete (id company : Uuid)
  | activate (id : Uuid)

namespace Operation

abbrev Result : Operation → Type
  | create _ _ => Except Failure Uuid
  | list _ _ _ _ => Except Failure (List Detail)
  | count _ _ => Except Failure Int
  | get _ _ => Except Failure Detail
  | update _ _ _ | delete _ _ => Except Failure Unit
  | activate _ => Except Failure String

def action : (o : Operation) → Action o.Result
  | create company r => Service.create company r
  | list company countries page key => Service.list company countries page key
  | count company countries => Service.count company countries
  | get id company => Service.get id company
  | update id company r => Service.update id company r
  | delete id company => Service.delete id company
  | activate id => Service.activate id

def target? : Operation → Option Uuid
  | get id _ | update id _ _ | delete id _ | activate id => some id
  | create _ _ | list _ _ _ _ | count _ _ => none

/-- What an operation asks: only a creation brings in a promotion, which is then the one that its
request draws up; changes and listings are for the company that calls; and the cache is asked under
the key of the promotion that the operation is about. -/
def Poses (o : Operation) : Ask → Prop
  | .mint => ∃ company r, o = create company r
  | .companyName _ => True
  | .store (.create _ _ draft codes) =>
    ∃ company r, o = create company r ∧ r.draft company = .ok draft ∧ codes = draft.budget.pool
  | .store (.find id) => ∃ company, o = get id company
  | .store (.list filter page key) =>
    ∃ company countries, o = list company countries page key ∧ filter = .of company countries
  | .store (.count filter) =>
    ∃ company countries, o = count company countries ∧ filter = .of company countries
  | .store (.update id company content) => ∃ r, o = update id company r ∧ r.changes = .ok content
  | .store (.delete id company) => o = delete id company
  | .store (.activate id) => o = activate id
  | .cache (.find key) | .cache (.generation key) | .cache (.fill key _ _) =>
    ∃ id company, o = get id company ∧ key = detailKey id
  | .cache (.invalidate key) => ∃ id, o.target? = some id ∧ key = detailKey id

def MayAsk (o : Operation) : Ask → Prop
  | .store (.create _ _ _ codes) =>
    (∃ company r, o = create company r) ∧ ∀ c ∈ codes, 0 ≤ c.maxCount.toInt
  | .store (.delete id company) => o = delete id company
  | .store (.activate id) => o = activate id
  | .cache (.fill key _ _) => ∃ id company, o = get id company ∧ key = detailKey id
  | _ => True

end Operation

/-! ### The codes of a new promotion -/

/-- A computation that goes well goes well in both of its parts. -/
theorem bind_ok {ε α β : Type} {x : Except ε α} {f : α → Except ε β} {b : β}
    (h : (x >>= f) = .ok b) : ∃ a, x = .ok a ∧ f a = .ok b := by
  cases x with
  | error e => cases h
  | ok a => exact ⟨a, rfl, h⟩

theorem eq_true_of_demand {kept : Bool} {v : Violation} {u : Unit} (h : demand kept v = .ok u) :
    kept = true := by
  cases kept with
  | true => rfl
  | false => cases h

namespace CreateRequest

/-- What a draft is made of, and what it has passed. -/
theorem exists_of_draft {r : CreateRequest} {company : Uuid} {d : Draft}
    (h : r.draft company = .ok d) : company ≠ .nil ∧ ∃ mode content b,
      r.content.normalise = .ok content ∧ r.budget mode = .ok b ∧
        content.periodOrdered = true ∧ d = ⟨company, content, b⟩ := by
  obtain ⟨u, hcompany, h⟩ := bind_ok h
  cases hmode : Mode.ofLabel? (Text.trim r.mode) with
  | none =>
    rw [hmode] at h
    cases h
  | some mode =>
    rw [hmode] at h
    obtain ⟨content, hcontent, h⟩ := bind_ok h
    obtain ⟨b, hbudget, h⟩ := bind_ok h
    obtain ⟨u, hperiod, h⟩ := bind_ok h
    exact ⟨by simpa using eq_true_of_demand hcompany, mode, content, b, hcontent, hbudget,
      eq_true_of_demand hperiod, (Except.ok.inj h).symm⟩

theorem companyId_of_draft {r : CreateRequest} {company : Uuid} {d : Draft}
    (h : r.draft company = .ok d) : d.companyId = company := by
  obtain ⟨-, mode, content, b, -, -, -, rfl⟩ := exists_of_draft h
  rfl

theorem maxCount_pos_of_commonBudget {code : Option String} {maxCount : Option Int64}
    {b : Budget} (h : commonBudget code maxCount = .ok b) :
    ∀ c ∈ b.pool, 1 ≤ c.maxCount.toInt := by
  unfold commonBudget at h
  cases hcode : Text.blankToNone code with
  | none =>
    rw [hcode] at h
    cases h
  | some code =>
    rw [hcode] at h
    obtain ⟨u, -, hmax⟩ := bind_ok h
    cases maxCount with
    | none => cases hmax
    | some n =>
      by_cases hn : 1 ≤ n
      · simp only [hn, if_true, Except.ok.injEq] at hmax
        subst hmax
        have hone : (1 : Int64).toInt ≤ n.toInt := Int64.le_iff_toInt_le.mp hn
        intro c hc
        simp only [Budget.pool, List.mem_singleton] at hc
        subst hc
        exact hone
      · simp [hn] at hmax

theorem maxCount_pos_of_uniqueBudget {codes : Option (List String)} {b : Budget}
    (h : uniqueBudget codes = .ok b) : ∀ c ∈ b.pool, 1 ≤ c.maxCount.toInt := by
  obtain ⟨u, -, h⟩ := bind_ok h
  obtain ⟨u, -, h⟩ := bind_ok h
  simp only [Except.ok.injEq] at h
  subst h
  intro c hc
  obtain ⟨code, -, rfl⟩ := List.mem_map.mp hc
  exact (by decide : 1 ≤ (1 : Int64).toInt)

/-- The codes of a request that passes validation are good for one activation at least. -/
theorem maxCount_pos_of_draft {r : CreateRequest} {company : Uuid} {d : Draft}
    (h : r.draft company = .ok d) : ∀ c ∈ d.budget.pool, 1 ≤ c.maxCount.toInt := by
  obtain ⟨-, mode, content, b, -, hbudget, -, rfl⟩ := exists_of_draft h
  cases mode with
  | common => exact maxCount_pos_of_commonBudget hbudget
  | unique => exact maxCount_pos_of_uniqueBudget hbudget

end CreateRequest

/-! ### The questions of each operation -/

namespace Service

open Dialogue

/-- How a reader goes on once it has the promotion, or knows why not. -/
def reply (company : Uuid) : Except Failure Promotion → Action (Except Failure Detail)
  | .error f => return .error f
  | .ok p =>
    if p.companyId = company then
      return (← Action.companyName p.companyId).map p.detail
    else return .error .permissionDenied

/-- How a reader goes on once the store has answered: it puts the text into the cache if it knows
under which generation. -/
def keep (id : Uuid) (generation : Except Failure Nat) :
    Except Failure (Option Promotion) → Action (Except Failure Promotion)
  | .error f => return .error f
  | .ok none => return .error .promotionNotFound
  | .ok (some p) =>
    match generation with
    | .error _ => return .ok p
    | .ok g => do
      let _ ← Action.cache (.fill (detailKey id) p.print g)
      return .ok p

theorem get_eq (id company : Uuid) : get id company = load id >>= reply company := by
  unfold get
  congr 1

/-- How a reader goes on once the cache has answered: without a text it asks the store. -/
def proceed (id : Uuid) (answer : Except Failure (Option String)) :
    Action (Except Failure Promotion) :=
  match cached answer with
  | some p => return .ok p
  | none => loadStored id

theorem load_eq (id : Uuid) :
    load id = .ask (.cache (.find (detailKey id))) (proceed id) := rfl

theorem loadStored_eq (id : Uuid) :
    loadStored id = .ask (.cache (.generation (detailKey id))) fun generation =>
      .ask (.store (.find id)) (keep id generation) := by
  change Dialogue.ask _ _ = Dialogue.ask _ _
  congr 1
  funext generation
  change Dialogue.ask _ _ = Dialogue.ask _ _
  congr 1
  funext answer
  cases answer with
  | error f => rfl
  | ok found =>
    cases found with
    | none => rfl
    | some p => cases generation <;> rfl

/-- How a listing goes on behind a promotion, once it has the name for it. -/
def namedBehind (p : Promotion) (name : String) (known : List (Uuid × String))
    (ps : List Promotion) : Action (Except Failure (List Detail)) :=
  named known ps >>= fun rest => pure (rest.map (p.detail name :: ·))

theorem named_cons_of_known {known : List (Uuid × String)} {p : Promotion} {name : String}
    (h : known.lookup p.companyId = some name) (ps : List Promotion) :
    named known (p :: ps) = namedBehind p name known ps := by
  rw [named, h]
  rfl

theorem named_cons_of_new {known : List (Uuid × String)} {p : Promotion}
    (h : known.lookup p.companyId = none) (ps : List Promotion) :
    named known (p :: ps) = .ask (.companyName p.companyId) fun
      | .error f => .done (.error f)
      | .ok name => namedBehind p name ((p.companyId, name) :: known) ps := by
  rw [named, h]
  change Dialogue.ask _ _ = Dialogue.ask _ _
  congr 1
  funext answer
  cases answer <;> rfl

/-- What holds of a promotion that is shown, and of all behind it, holds of all of them. -/
theorem forall_of_shown_cons {P : Detail → Prop} {d : Detail} {rest : Except Failure (List Detail)}
    (hd : P d) (hrest : ∀ ds, rest = .ok ds → ∀ e ∈ ds, P e) :
    ∀ ds, rest.map (d :: ·) = .ok ds → ∀ e ∈ ds, P e := by
  intro ds hds
  cases rest with
  | error f => cases hds
  | ok shown =>
    obtain rfl := Except.ok.inj hds
    exact List.forall_mem_cons.mpr ⟨hd, hrest shown rfl⟩

theorem reply_asks {P : Ask → Prop} (h : ∀ c, P (.companyName c)) (company : Uuid)
    (r : Except Failure Promotion) : (reply company r).Asks P := by
  cases r with
  | error f => trivial
  | ok p =>
    simp only [reply]
    split
    · exact ⟨h _, fun _ => trivial⟩
    · trivial

theorem keep_asks {P : Ask → Prop} {id : Uuid} {generation : Except Failure Nat}
    (h : ∀ value g, P (.cache (.fill (detailKey id) value g)))
    (answer : Except Failure (Option Promotion)) : (keep id generation answer).Asks P := by
  cases answer with
  | error f => trivial
  | ok found =>
    cases found with
    | none => trivial
    | some p =>
      cases generation with
      | error f => trivial
      | ok g => exact ⟨h _ _, fun _ => trivial⟩

theorem named_asks {P : Ask → Prop} (h : ∀ c, P (.companyName c)) (ps : List Promotion)
    (known : List (Uuid × String)) : (named known ps).Asks P := by
  induction ps generalizing known with
  | nil => exact asks_pure ..
  | cons p ps ih =>
    have hbehind (name : String) (known : List (Uuid × String)) :
        (namedBehind p name known ps).Asks P := (ih known).bind fun rest => asks_pure ..
    cases hlookup : known.lookup p.companyId with
    | some name =>
      rw [named_cons_of_known hlookup]
      exact hbehind ..
    | none =>
      rw [named_cons_of_new hlookup]
      refine ⟨h _, fun name => ?_⟩
      cases name with
      | error f => trivial
      | ok name => exact hbehind ..

theorem settle_asks {P : Ask → Prop} {α : Type} (id : Uuid)
    (h : P (.cache (.invalidate (detailKey id))))
    (answer : Except Failure α) : (settle id answer).Asks P := by
  cases answer with
  | error f => trivial
  | ok a => exact ⟨h, fun _ => trivial⟩

end Service

/-- Every operation poses only the questions that are its own. -/
theorem Operation.action_poses (o : Operation) : o.action.Asks o.Poses := by
  cases o with
  | create company r =>
    simp only [action, Service.create]
    cases h : r.draft company with
    | error v => trivial
    | ok d =>
      exact ⟨⟨company, r, rfl⟩, fun minted => ⟨⟨company, r, rfl, h, rfl⟩, fun stored => trivial⟩⟩
  | list company countries page key =>
    refine ⟨⟨company, countries, rfl, rfl⟩, fun answer => ?_⟩
    cases answer with
    | error f => trivial
    | ok ps => exact Service.named_asks (fun _ => trivial) ps []
  | count company countries => exact ⟨⟨company, countries, rfl, rfl⟩, fun _ => trivial⟩
  | get id company =>
    have hkey : ∃ x c, get id company = get x c ∧ detailKey id = detailKey x :=
      ⟨id, company, rfl, rfl⟩
    have hstored : (Service.loadStored id).Asks (get id company).Poses := by
      rw [Service.loadStored_eq]
      exact ⟨hkey, fun g => ⟨⟨company, rfl⟩, Service.keep_asks fun _ _ => hkey⟩⟩
    have hload : (Service.load id).Asks (get id company).Poses := by
      rw [Service.load_eq]
      refine ⟨hkey, fun answer => ?_⟩
      cases hcached : Service.cached answer with
      | none => simpa [Service.proceed, hcached] using hstored
      | some p => simp [Service.proceed, hcached, Dialogue.asks_pure]
    rw [action, Service.get_eq]
    exact hload.bind (Service.reply_asks (fun _ => trivial) company)
  | update id company r =>
    simp only [action, Service.update]
    cases h : r.changes with
    | error v => trivial
    | ok content => exact ⟨⟨r, rfl, h⟩, Service.settle_asks id ⟨id, rfl, rfl⟩⟩
  | delete id company => exact ⟨rfl, Service.settle_asks id ⟨id, rfl, rfl⟩⟩
  | activate id => exact ⟨rfl, Service.settle_asks id ⟨id, rfl, rfl⟩⟩

/-- Every operation asks only what it may. -/
theorem Operation.action_asks (o : Operation) : o.action.Asks o.MayAsk := by
  refine o.action_poses.imp fun q hq => ?_
  match q with
  | .store (.create _ _ draft codes) =>
    obtain ⟨company, r, ho, hdraft, rfl⟩ := hq
    refine ⟨⟨company, r, ho⟩, fun c hc => ?_⟩
    have := CreateRequest.maxCount_pos_of_draft hdraft c hc
    omega
  | .store (.delete _ _) | .store (.activate _) | .cache (.fill _ _ _) => exact hq
  | .mint | .companyName _ | .store (.find _) | .store (.list _ _ _) | .store (.count _)
  | .store (.update _ _ _) | .cache (.find _) | .cache (.generation _)
  | .cache (.invalidate _) => trivial

end Promotions
