import Promotions.Proofs.Provenance
import Promotions.Proofs.WellFormed

/-!
Counts in 64-bit arithmetic are what they are in mathematics. A row is counted up only while it has
room, and what a promotion counts in all is at most the sum of what its codes may count: a single
number for a code that is shared, and the number of codes for those that are good once. Both stay
within 64 bits, also for promotions that were read some time ago and are shown from the cache.
-/

namespace Promotions

/-! ### Sums -/

/-- A code has been redeemed no less than never and no more often than it may be. -/
def CodeCount.Within (c : CodeCount) : Prop :=
  0 ≤ c.activations.toInt ∧ c.activations.toInt ≤ c.maxCount.toInt

def Promotion.Within (p : Promotion) : Prop := ∀ c ∈ p.codes, c.Within

/-- The activations of codes add up to no more than their limits do. -/
theorem sum_activations_within {codes : List CodeCount} (h : ∀ c ∈ codes, c.Within) :
    0 ≤ (codes.map (·.activations.toInt)).sum ∧
      (codes.map (·.activations.toInt)).sum ≤ (codes.map (·.maxCount.toInt)).sum := by
  induction codes with
  | nil => exact ⟨Int.le_refl 0, Int.le_refl 0⟩
  | cons c codes ih =>
    obtain ⟨hlow, hhigh⟩ := h c List.mem_cons_self
    obtain ⟨ihlow, ihhigh⟩ := ih fun d hd => h d (List.mem_cons_of_mem _ hd)
    simp only [List.map_cons, List.sum_cons]
    omega

/-- Adding up from a number on is exact, as long as the sum of all that may come fits. -/
theorem toInt_foldl_activations {codes : List CodeCount} (h : ∀ c ∈ codes, c.Within) (n : Int64)
    (hn : 0 ≤ n.toInt) (hfits : n.toInt + (codes.map (·.maxCount.toInt)).sum < 2 ^ 63) :
    (codes.foldl (fun n c => n + c.activations) n).toInt =
      n.toInt + (codes.map (·.activations.toInt)).sum := by
  induction codes generalizing n with
  | nil => exact (Int.add_zero _).symm
  | cons c codes ih =>
    obtain ⟨hlow, hhigh⟩ := h c List.mem_cons_self
    have hcodes : ∀ d ∈ codes, d.Within := fun d hd => h d (List.mem_cons_of_mem _ hd)
    obtain ⟨hrestLow, hrestHigh⟩ := sum_activations_within hcodes
    simp only [List.map_cons, List.sum_cons] at hfits ⊢
    have hadd : (n + c.activations).toInt = n.toInt + c.activations.toInt := by
      rw [Int64.toInt_add]
      exact Int.bmod_eq_of_le (by omega) (by omega)
    rw [List.foldl_cons, ih hcodes _ (by omega) (by omega), hadd]
    omega

/-- The activations of a promotion, added up in 64-bit arithmetic, are their sum. -/
theorem toInt_totalActivations {codes : List CodeCount} (h : ∀ c ∈ codes, c.Within)
    (hfits : (codes.map (·.maxCount.toInt)).sum < 2 ^ 63) :
    (totalActivations codes).toInt = (codes.map (·.activations.toInt)).sum := by
  have hzero : (0 : Int64).toInt = 0 := rfl
  have hsum := toInt_foldl_activations h 0 (by omega) (by omega)
  rwa [hzero, Int.zero_add] at hsum

/-! ### What the codes of a promotion may count in all -/

def Budget.size : Budget → Int
  | .common _ maxCount => maxCount.toInt
  | .unique codes => codes.length

theorem Budget.sum_pool (b : Budget) : (b.pool.map (·.maxCount.toInt)).sum = b.size := by
  cases b with
  | common code maxCount => simp [pool, size]
  | unique codes =>
    have hone : (1 : Int64).toInt = 1 := rfl
    simp [pool, size, Function.comp_def, hone]

/-- What a new promotion is good for fits, unless too many codes were asked for. -/
theorem CreateRequest.size_lt_of_draft {r : CreateRequest} {company : Uuid} {d : Draft}
    (h : r.draft company = .ok d) (hfew : (r.promoUnique.getD []).length < 2 ^ 63) :
    d.budget.size < 2 ^ 63 := by
  obtain ⟨-, mode, content, b, -, hbudget, -, rfl⟩ := exists_of_draft h
  cases mode with
  | common =>
    obtain ⟨hmode, -⟩ := issues_of_commonBudget hbudget
    cases b with
    | common code maxCount => exact maxCount.toInt_lt
    | unique codes => cases hmode
  | unique =>
    obtain ⟨-, -, hcodes⟩ := bind_ok hbudget
    obtain ⟨-, -, hcodes⟩ := bind_ok hcodes
    obtain rfl := Except.ok.inj hcodes
    change ((r.promoUnique.getD []).length : Int) < 2 ^ 63
    omega

/-- A promotion that was issued within a budget may count as much as the budget is good for. -/
theorem Promotion.sum_maxCount {p : Promotion} {b : Budget}
    (h : p.codes.map CodeCount.issued = b.pool) :
    (p.codes.map (·.maxCount.toInt)).sum = b.size := by
  have hlimits : p.codes.map (·.maxCount.toInt) = b.pool.map (·.maxCount.toInt) := by
    rw [← h, List.map_map]
    rfl
  rw [hlimits, b.sum_pool]

def Operation.codesAsked : Operation → Nat
  | .create _ r => (r.promoUnique.getD []).length
  | _ => 0

/-! ### What is shown -/

def Operation.details : (o : Operation) → o.Result → List Detail
  | .get _ _, .ok d => [d]
  | .list _ _ _ _, .ok ds => ds
  | _, _ => []

theorem Operation.Yields.shown {V : Promotion → Prop} {o : Operation} {a : o.Result}
    (h : o.Yields V a) : ∀ d ∈ o.details a, V d.promotion := by
  intro d hd
  cases o with
  | get id company =>
    cases a with
    | error f => cases hd
    | ok e =>
      obtain rfl := List.mem_singleton.mp hd
      exact h.1
  | list company countries page key =>
    cases a with
    | error f => cases hd
    | ok ds => exact (h d hd).1
  | create | count | update | delete | activate => cases hd

/-- What is shown of a promotion has its activations added up. -/
def Detail.AddedUp (d : Detail) : Prop :=
  d.activationsCount = totalActivations d.promotion.codes

namespace Dialogue

variable {Ask : Type} {Answer : Ask → Type} {α β : Type}

/-- Wherever a dialogue ends, whatever it was answered, its result has a property. -/
def Ends (E : α → Prop) : Dialogue Ask Answer α → Prop
  | done a => E a
  | ask _ next => ∀ r, (next r).Ends E

theorem ends_true (d : Dialogue Ask Answer α) : d.Ends fun _ => True := by
  induction d with
  | done a => trivial
  | ask q next ih => exact ih

theorem Ends.imp {E F : α → Prop} {d : Dialogue Ask Answer α} (hd : d.Ends E)
    (h : ∀ a, E a → F a) : d.Ends F := by
  induction d with
  | done a => exact h a hd
  | ask q next ih => exact fun r => ih r (hd r)

theorem Ends.bind {E : α → Prop} {F : β → Prop} {d : Dialogue Ask Answer α}
    {k : α → Dialogue Ask Answer β} (hd : d.Ends E) (hk : ∀ a, E a → (k a).Ends F) :
    (d >>= k).Ends F := by
  induction d with
  | done a => exact hk a hd
  | ask q next ih => exact fun r => ih r (hd r)

theorem Keeps.and_ends {supposed : (q : Ask) → Answer q → Prop} {promised : Ask → Prop}
    {E F : α → Prop} {d : Dialogue Ask Answer α} (hd : d.Keeps supposed promised E)
    (h : d.Ends F) : d.Keeps supposed promised fun a => E a ∧ F a := by
  induction d with
  | done a => exact ⟨hd, h⟩
  | ask q next ih => exact ⟨hd.1, fun r hr => ih r (hd.2 r hr) (h r)⟩

end Dialogue

namespace Service

theorem named_ends (ps : List Promotion) (known : List (Uuid × String)) :
    (named known ps).Ends fun r => ∀ ds, r = .ok ds → ∀ d ∈ ds, d.AddedUp := by
  induction ps generalizing known with
  | nil =>
    rintro ds ⟨⟩ d hd
    cases hd
  | cons p ps ih =>
    have hbehind (name : String) (known : List (Uuid × String)) :
        (namedBehind p name known ps).Ends fun r => ∀ ds, r = .ok ds → ∀ d ∈ ds, d.AddedUp :=
      (ih known).bind fun _ hrest => forall_of_shown_cons rfl hrest
    cases hlookup : known.lookup p.companyId with
    | some name =>
      rw [named_cons_of_known hlookup]
      exact hbehind ..
    | none =>
      rw [named_cons_of_new hlookup]
      intro name
      cases name with
      | error f => rintro ds ⟨⟩
      | ok name => exact hbehind ..

/-- A promotion is shown with the sum of its activations. -/
theorem reply_ends (id company : Uuid) (r : Except Failure Promotion) :
    (reply company r).Ends fun a => ∀ d ∈ (Operation.get id company).details a, d.AddedUp := by
  cases r with
  | error f => rintro d ⟨⟩
  | ok p =>
    simp only [reply]
    split
    · intro name d hd
      cases name with
      | error f => cases hd
      | ok name =>
        obtain rfl := List.mem_singleton.mp hd
        rfl
    · rintro d ⟨⟩

end Service

/-- Every operation adds up what it shows. -/
theorem Operation.action_ends (o : Operation) :
    o.action.Ends fun a => ∀ d ∈ o.details a, d.AddedUp := by
  cases o with
  | get id company =>
    rw [action, Service.get_eq]
    exact (Dialogue.ends_true _).bind fun r _ => Service.reply_ends id company r
  | list company countries page key =>
    intro answer
    cases answer with
    | error f => rintro d ⟨⟩
    | ok ps =>
      refine (Service.named_ends ps []).imp fun r hr d hd => ?_
      cases r with
      | error f => cases hd
      | ok ds => exact hr ds rfl d hd
  | create | count | update | delete | activate =>
    exact (Dialogue.ends_true _).imp fun a _ d hd => by cases hd

namespace Memory

/-! ### Calls that show promotions -/

def Call.shown (c : Call) : List Detail :=
  match c.returned? with
  | some ⟨o, a⟩ => o.details a
  | none => []

theorem Call.exists_of_shown {c : Call} {d : Detail} (h : d ∈ c.shown) :
    ∃ o a, c.returned? = some ⟨o, a⟩ ∧ d ∈ o.details a := by
  cases hreturned : c.returned? with
  | none =>
    rw [shown, hreturned] at h
    cases h
  | some x =>
    rw [shown, hreturned] at h
    exact ⟨x.1, x.2, rfl, h⟩

def Copy.begun : Copy → List Promotion
  | reading done todo => done ++ todo.map (·.promotion)
  | holding done p _ _ rest => done ++ p :: rest.map (·.promotion)

/-- A promotion that is copied gets the codes that its rows count when they are read. -/
theorem Copy.begun_of_steps {caller : Nat} {w w' : World} {c c' : Copy} {P : Promotion → Prop}
    (hs : Copy.Steps caller w c c' w') (hbounded : w.Bounded)
    (hP : ∀ p k, P p → k.Within → P { p with codes := p.codes ++ [k] })
    (h : ∀ p ∈ c.begun, P p) : ∀ p ∈ c'.begun, P p := by
  cases hs with
  | copied => simpa [begun] using h
  | took _ => exact h
  | @read done p r left rest =>
    simp only [begun, List.map_cons, List.forall_mem_append, List.forall_mem_cons] at h ⊢
    obtain ⟨hdone, hp, hrest⟩ := h
    refine ⟨hdone, ?_, hrest⟩
    cases hk : w.count? r with
    | none => simpa using hp
    | some k => exact hP p k hp (hbounded r k hk)

/-- A call keeps its promises from here on, where promotions are vouched for if their codes are
redeemed within bounds. What it copies meanwhile is so, as far as it is copied, and it is what the
call has asked for. -/
def Stage.ShowsWithin {α : Type} (E : α → Prop) : Stage α → Prop
  | asking d => d.Keeps (Ask.Supposes Promotion.Within) (Ask.Promises Promotion.Within) E
  | activating _ _ next =>
    ∀ a, (next a).Keeps (Ask.Supposes Promotion.Within) (Ask.Promises Promotion.Within) E
  | copying c next => ∃ asked : Promotion → Prop,
      (∀ p codes, asked p → asked { p with codes }) ∧
      (∀ p ∈ c.begun, p.Within ∧ asked p) ∧
      ∀ ps : List Promotion, (∀ p ∈ ps, p.Within ∧ asked p) →
        (next ps).Keeps (Ask.Supposes Promotion.Within) (Ask.Promises Promotion.Within) E
  | abandoned => True

namespace Stage.ShowsWithin

variable {α : Type} {E : α → Prop} {st st' : Stage α}

theorem promises (h : st.ShowsWithin E) {q : Ask} {next : q.Answer → Action α}
    (hst : st = .asking (.ask q next)) : q.Promises Promotion.Within := by
  subst hst
  exact h.1

theorem within_blank (pool : Pool) : pool.blank.promotion.Within := by
  intro c hc
  cases hc

/-- A call goes on to show only promotions whose codes are redeemed within bounds. -/
theorem of_steps {ch : Choice} {caller : Nat} {s s' : Shared} {note : Option Note}
    (h : st.ShowsWithin E) (hbounded : s.world.Bounded)
    (hcache : s.cache.Vouched Promotion.Within)
    (hs : Stage.Steps ch caller s st st' s' note) : st'.ShowsWithin E := by
  cases hs with
  | asked =>
    rename_i q next
    obtain ⟨-, hnext⟩ := h
    match q with
    | .mint | .companyName _ | .store (.count _) | .store (.update _ _ _)
    | .store (.delete _ _) => exact hnext _ trivial
    | .cache (.generation _) | .cache (.fill _ _ _) | .cache (.invalidate _) =>
      exact hnext _ trivial
    | .cache (.find key) => exact hnext _ (hcache.supposes_find key)
    | .store (.create _ _ _ _) =>
      simp only [ask]
      split <;> exact hnext _ trivial
    | .store (.find id) =>
      simp only [ask]
      cases hpool : s.world.pool? id with
      | none => exact hnext _ trivial
      | some pool =>
        refine ⟨fun p => p.id = id, fun _ _ hp => hp, ?_, fun ps hps => hnext _ ?_⟩
        · intro p hp
          obtain rfl := List.mem_singleton.mp hp
          exact ⟨within_blank pool, (World.mem_of_pool? hpool).2⟩
        · cases ps with
          | nil => trivial
          | cons p ps => exact hps p List.mem_cons_self
    | .store (.list filter page key) =>
      refine ⟨fun p => p.companyId = filter.companyId, fun _ _ hp => hp, ?_,
        fun ps hps => hnext _ hps⟩
      intro p hp
      simp only [Copy.begun, List.nil_append, List.map_map, List.mem_map] at hp
      obtain ⟨pool, hpool, rfl⟩ := hp
      exact ⟨within_blank pool,
        Filter.companyId_of_accepts (World.mem_pools_of_mem_listing hpool).2⟩
    | .store (.activate id) => exact fun a => hnext a trivial
  | activated _ => exact h _
  | activates _ => exact h
  | copied hresult =>
    obtain rfl := Copy.eq_reading_of_result? hresult
    obtain ⟨asked, -, hbegun, hnext⟩ := h
    exact hnext _ (by simpa [Copy.begun] using hbegun)
  | copies hc =>
    obtain ⟨asked, hasked, hbegun, hnext⟩ := h
    refine ⟨asked, hasked, Copy.begun_of_steps hc hbounded ?_ hbegun, hnext⟩
    rintro p k ⟨hp, hpasked⟩ hk
    refine ⟨?_, hasked p _ hpasked⟩
    simpa [Promotion.Within, or_imp, forall_and] using ⟨hp, hk⟩

end Stage.ShowsWithin

/-! ### The invariant -/

namespace System

variable {g : Nat → Int} {s s' : System}

/-- Rows count within bounds, so do the promotions that are in the cache as texts, and every call
shows only promotions that do. -/
structure CountsFit (s : System) : Prop where
  rows : s.shared.world.Bounded
  cached : s.shared.cache.Vouched Promotion.Within
  calls : ∀ c ∈ s.calls, c.stage.ShowsWithin fun a =>
    c.operation.Yields Promotion.Within a ∧ ∀ d ∈ c.operation.details a, d.AddedUp

/-- After a move, rows still count within bounds, and so do the promotions in the cache and those
that are shown. -/
theorem CountsFit.next (h : s.CountsFit) (hsound : s.Sound g) {m : Move}
    (hm : s.next m = some s') : s'.CountsFit := by
  have hrows := hsound.bounded_next h.rows hm
  cases happens_of_next hm with
  | begin o =>
    refine ⟨hrows, h.cached, fun c hc => ?_⟩
    rcases List.mem_append.mp hc with hold | hnew
    · exact h.calls c hold
    · obtain rfl := List.mem_singleton.mp hnew
      exact o.action_keeps.and_ends o.action_ends
  | @advance caller ch c stage shared note hc hstep =>
    have hs := Stage.steps_of_step hstep
    have hkeeps := h.calls c (List.mem_of_getElem? hc)
    refine ⟨hrows, h.cached.of_turn (fun _ _ => hkeeps.promises) (CacheTurn.of_steps hs), ?_⟩
    intro d hd
    rcases of_mem_set hd with rfl | ⟨j, -, hj⟩
    · exact hkeeps.of_steps h.rows h.cached hs
    · exact h.calls d (List.mem_of_getElem? hj)
  | abandon _ _ =>
    refine ⟨hrows, h.cached, fun d hd => ?_⟩
    rcases of_mem_set hd with rfl | ⟨j, -, hj⟩
    · trivial
    · exact h.calls d (List.mem_of_getElem? hj)
  | failCache _ | failCodes _ => exact ⟨hrows, h.cached, h.calls⟩

/-- Whatever the schedule: counts fit after it. -/
theorem countsFit_run {cache : Cache} (hempty : cache.entries = []) {ms : List Move}
    (hrun : (start {} cache).run ms = some s) : s.CountsFit := by
  refine (sound_start {} cache).induction_along (poses_start {} cache) hrun ?_
    fun t m t' _ ht _ hfit hm _ => hfit.next ht hm
  refine ⟨bounded_start cache fun p hp => ?_, fun key text hfind => ?_, fun c hc => ?_⟩
  · cases hp
  · simp [start, Cache.find?, hempty] at hfind
  · cases hc

/-- What a call shows counts within bounds, and it is added up. -/
theorem CountsFit.shown (h : s.CountsFit) {c : Call} (hc : c ∈ s.calls) {o : Operation}
    {a : o.Result} (hreturned : c.returned? = some ⟨o, a⟩) :
    ∀ d ∈ o.details a, d.promotion.Within ∧ d.AddedUp := by
  obtain ⟨captured, counted, rfl⟩ := Call.eq_of_returned? hreturned
  obtain ⟨hyields, hadded⟩ := h.calls _ hc
  exact fun d hd => ⟨hyields.shown d hd, hadded d hd⟩

/-- In a move a row counts what it counted, or one more, or it is new and counts nothing. -/
theorem Sound.count_next (h : s.Sound g) {m : Move} (hm : s.next m = some s') {r : Nat}
    {k' : CodeCount} (hk : s'.shared.world.count? r = some k') :
    (∃ k, s.shared.world.count? r = some k ∧
        (k'.activations.toInt = k.activations.toInt ∨
          k'.activations.toInt = k.activations.toInt + 1)) ∨
      s.shared.world.rows.length ≤ r ∧ k'.activations.toInt = 0 := by
  cases happens_of_next hm with
  | advance hc hstep =>
    have hroom := h.room _ (List.mem_of_getElem? hc)
    rcases (h.turn hc hstep).tally hroom hk with ⟨hold, -⟩ | ⟨id, k, -, hold, hplus⟩ | ⟨hnew, hz, -⟩
    · exact Or.inl ⟨k', hold, Or.inl rfl⟩
    · exact Or.inl ⟨k, hold, Or.inr hplus⟩
    · exact Or.inr ⟨hnew, hz⟩
  | abandon _ _ => exact Or.inl ⟨k', by rwa [count?_letGo] at hk, Or.inl rfl⟩
  | begin _ | failCache _ | failCodes _ => exact Or.inl ⟨k', hk, Or.inl rfl⟩

/-- The limits of a promotion that a call of a company has created add up to no more than fits, if
the call has not asked for too many codes. -/
theorem Vouches.sum_maxCount_lt {p : Promotion} (h : s.Vouches p)
    (hfew : ∀ c ∈ s.calls, c.operation.codesAsked < 2 ^ 63) :
    (p.codes.map (·.maxCount.toInt)).sum < 2 ^ 63 := by
  obtain ⟨r, draft, ⟨c, hc, hcreated⟩, hdraft, -, hissued, -⟩ := h
  obtain ⟨captured, counted, rfl⟩ := Call.eq_of_returned? hcreated
  rw [Promotion.sum_maxCount hissued]
  exact CreateRequest.size_lt_of_draft hdraft (hfew _ hc)

/-- Counts never overflow. From an empty store and an empty cache, after any schedule of calls of
which none asks for 2^63 codes or more: a step that counts a row up adds one to its count, which
then is no greater than its limit. And what the owner of a promotion is shown, of a single one or of
a page, from the store or from the cache, has as its number of activations the sum of those of its
codes. That sum is never negative and at most the sum of their limits, which is less than 2^63. -/
theorem counts_never_overflow {cache : Cache} (hempty : cache.entries = []) {ms : List Move}
    {s : System} (hrun : (start {} cache).run ms = some s)
    (hfew : ∀ c ∈ s.calls, c.operation.codesAsked < 2 ^ 63) :
    (∀ m s', s.next m = some s' → ∀ r k', s'.shared.world.count? r = some k' →
      (0 ≤ k'.activations.toInt ∧ k'.activations.toInt ≤ k'.maxCount.toInt) ∧
        ((∃ k, s.shared.world.count? r = some k ∧
            (k'.activations.toInt = k.activations.toInt ∨
              k'.activations.toInt = k.activations.toInt + 1)) ∨
          s.shared.world.rows.length ≤ r ∧ k'.activations.toInt = 0)) ∧
      ∀ c ∈ s.calls, ∀ d ∈ c.shown,
        d.activationsCount.toInt = (d.promotion.codes.map (·.activations.toInt)).sum ∧
          0 ≤ d.activationsCount.toInt ∧
          d.activationsCount.toInt ≤ (d.promotion.codes.map (·.maxCount.toInt)).sum ∧
          (d.promotion.codes.map (·.maxCount.toInt)).sum < 2 ^ 63 := by
  have hsound := ((sound_start {} cache).run hrun).1
  have hfit := countsFit_run hempty hrun
  have htraced := traced_run hempty hrun
  refine ⟨fun m s' hm r k' hk => ?_, fun c hc d hd => ?_⟩
  · exact ⟨(hfit.next hsound hm).rows r k' hk, hsound.count_next hm hk⟩
  · obtain ⟨o, a, hreturned, hd⟩ := Call.exists_of_shown hd
    obtain ⟨hwithin, hadded⟩ := hfit.shown hc hreturned d hd
    have hlimit := Vouches.sum_maxCount_lt ((htraced.yields hc hreturned).shown d hd) hfew
    obtain ⟨hlow, hhigh⟩ := sum_activations_within hwithin
    have hsum : d.activationsCount.toInt = (d.promotion.codes.map (·.activations.toInt)).sum :=
      (congrArg Int64.toInt hadded).trans (toInt_totalActivations hwithin hlimit)
    rw [hsum]
    exact ⟨rfl, hlow, hhigh, hlimit⟩

/-- A promotion with the highest limit there is gets created and activated. Then its owner looks at
it and at a page with it. -/
def lookedAtTwice : List Move :=
  [.begin (.create (Supply.idAt 1) { sharedCode with maxCount := some Int64.maxValue }),
    .begin (.activate (Supply.idAt 0)), .begin (.get (Supply.idAt 0) (Supply.idAt 1)),
    .begin (.list (Supply.idAt 1) [] { limit := 10, offset := 0 } .createdAt)] ++
    ([0, 0, 1, 1, 1, 1, 1, 1, 1, 1, 1, 2, 2, 2, 2, 2, 2, 2, 2, 2, 3, 3, 3, 3, 3, 3].map
      fun caller => .advance caller { name := .ok "Padaria" })

/-- Both looks show the one activation. -/
theorem seen_twice_alike : ∃ s, (start {} {}).run lookedAtTwice = some s ∧
    (s.calls.flatMap Call.shown).map (·.activationsCount.toInt) = [1, 1] ∧
    ∀ c ∈ s.calls, ∀ d ∈ c.shown,
      d.activationsCount.toInt = (d.promotion.codes.map (·.activations.toInt)).sum := by
  obtain ⟨s, hs⟩ := Option.isSome_iff_exists.mp
    (by decide +kernel : ((start {} {}).run lookedAtTwice).isSome)
  have hshown : ((start {} {}).run lookedAtTwice).map
      (fun s => (s.calls.flatMap Call.shown).map (·.activationsCount.toInt)) =
        some [1, 1] := by decide +kernel
  have hfew : ((start {} {}).run lookedAtTwice).map
      (fun s => s.calls.all fun c => c.operation.codesAsked < 2 ^ 63) = some true := by
    decide +kernel
  rw [hs] at hshown hfew
  obtain ⟨-, hsums⟩ := counts_never_overflow rfl hs fun c hc =>
    of_decide_eq_true (List.all_eq_true.mp (Option.some.inj hfew) c hc)
  exact ⟨s, hs, Option.some.inj hshown, fun c hc d hd => (hsums c hc d hd).1⟩

end System

end Memory

end Promotions
