import Promotions.Memory.Environment
import Promotions.Proofs.Keys
import Promotions.Proofs.Questions
import Promotions.Proofs.RoundTrip
import Promotions.Proofs.Stores

/-!
The service with its cache against the service without one, operation by operation. Whatever the
cache holds and whichever of its operations fail, both do the same to everything else. A dialogue is
not swayed by the cache when it is the same dialogue without the questions to it; so is every
operation, but for readers that find a text in the cache.
-/

namespace Promotions

open Dialogue

/-! ### The service without a cache -/

/-- An operation of a service that has no cache: what it needs to know it asks the store. -/
def Operation.plain : (o : Operation) → Action o.Result
  | create company r => Service.create company r
  | list company countries page key => Service.list company countries page key
  | count company countries => Service.count company countries
  | get id company => do
    match ← Action.store (.find id) with
    | .error f => return .error f
    | .ok none => return .error .promotionNotFound
    | .ok (some p) =>
      if p.companyId = company then
        let name ← Action.companyName p.companyId
        return name.map p.detail
      else return .error .permissionDenied
  | update id company r =>
    match r.changes with
    | .error v => return .error (.ofViolation v)
    | .ok content => Action.store (.update id company content)
  | delete id company => Action.store (.delete id company)
  | activate id => Action.store (.activate id)

def Service.stored : Except Failure (Option Promotion) → Except Failure Promotion
  | .error f => .error f
  | .ok none => .error .promotionNotFound
  | .ok (some p) => .ok p

theorem Operation.plain_get (id company : Uuid) :
    (get id company).plain =
      .ask (.store (.find id)) fun a => Service.reply company (Service.stored a) := by
  change Dialogue.ask _ _ = Dialogue.ask _ _
  congr 1
  funext answer
  cases answer with
  | error f => rfl
  | ok found => cases found <;> rfl

def Ask.toCache : Ask → Bool
  | .cache _ => true
  | _ => false

/-- Whether a question leaves everything but the cache as it is. -/
def Ask.reads : Ask → Bool
  | .cache _ | .companyName _ | .store (.find _) | .store (.list _ _ _) | .store (.count _) => true
  | .mint | .store (.create _ _ _ _) | .store (.update _ _ _) | .store (.delete _ _)
  | .store (.activate _) => false

def Operation.reads : Operation → Bool
  | get _ _ | list _ _ _ _ | count _ _ => true
  | create _ _ | update _ _ _ | delete _ _ | activate _ => false

/-- Operations that only read ask nothing that changes more than the cache. -/
theorem Operation.action_reads {o : Operation} (ho : o.reads = true) :
    o.action.Asks (·.reads = true) := by
  refine o.action_poses.imp fun q hq => ?_
  match q with
  | .cache _ | .companyName _ | .store (.find _) | .store (.list _ _ _) | .store (.count _) => rfl
  | .mint | .store (.create _ _ _ _) =>
    obtain ⟨company, r, rfl, -⟩ := hq
    cases ho
  | .store (.update _ _ _) =>
    obtain ⟨r, rfl, -⟩ := hq
    cases ho
  | .store (.delete _ _) | .store (.activate _) =>
    obtain rfl := hq
    cases ho

/-- A service without a cache never asks one. -/
theorem Operation.plain_asks (o : Operation) : o.plain.Asks (·.toCache = false) := by
  cases o with
  | create company r =>
    simp only [plain, Service.create]
    cases r.draft company with
    | error v => trivial
    | ok d => exact ⟨rfl, fun _ => ⟨rfl, fun _ => trivial⟩⟩
  | list company countries page key =>
    refine ⟨rfl, fun answer => ?_⟩
    cases answer with
    | error f => trivial
    | ok ps => exact Service.named_asks (fun _ => rfl) ps []
  | count company countries => exact ⟨rfl, fun _ => trivial⟩
  | get x company =>
    rw [plain_get]
    exact ⟨rfl, fun a => Service.reply_asks (fun _ => rfl) company _⟩
  | update x company r =>
    simp only [plain]
    cases r.changes with
    | error v => trivial
    | ok content => exact ⟨rfl, fun _ => trivial⟩
  | delete x company => exact ⟨rfl, fun _ => trivial⟩
  | activate x => exact ⟨rfl, fun _ => trivial⟩

/-! ### Dialogues that the cache does not sway -/

/-- The second dialogue is what is left of the first one without the questions to the cache, in
whatever way the cache answers them. -/
inductive Action.Erases {α : Type} : Action α → Action α → Prop
  | done (a : α) : Erases (.done a) (.done a)
  | asked {q : Ask} {next next' : q.Answer → Action α} (hq : q.toCache = false)
      (h : ∀ a, Erases (next a) (next' a)) : Erases (.ask q next) (.ask q next')
  | cached {r : CacheRequest} {next : r.Answer → Action α} {d : Action α}
      (h : ∀ a, Erases (next a) d) : Erases (.ask (.cache r) next) d

namespace Action.Erases

variable {α β : Type} {d d' : Action α}

/-- A dialogue that asks the cache nothing is left as it is. -/
theorem of_asks (h : d.Asks (·.toCache = false)) : d.Erases d := by
  induction d with
  | done a => exact .done a
  | ask q next ih => exact .asked h.1 fun a => ih a (h.2 a)

/-- Erasing goes through dialogues in sequence. -/
theorem bind (h : d.Erases d') {k k' : α → Action β} (hk : ∀ a, (k a).Erases (k' a)) :
    (d >>= k).Erases (d' >>= k') := by
  induction h with
  | done a => exact hk a
  | asked hq _ ih => exact .asked hq ih
  | cached _ ih => exact .cached ih

end Action.Erases

namespace Service

/-- What the cache gives was read from a text that it has answered with. -/
theorem exists_of_cached {answer : Except Failure (Option String)} {p : Promotion}
    (h : cached answer = some p) :
    ∃ text, answer = .ok (some text) ∧ Promotion.parse text = .ok p := by
  rcases answer with f | _ | text
  · cases h
  · cases h
  · cases hparse : Promotion.parse text with
    | error f => simp [cached, hparse, Except.toOption] at h
    | ok q =>
      simp only [cached, hparse, Except.toOption, Option.some.injEq] at h
      exact ⟨text, rfl, h ▸ hparse⟩

/-- Nothing is left of what a change does in the cache. -/
theorem settle_erases {α : Type} (id : Uuid) (answer : Except Failure α) :
    (settle id answer).Erases (.done answer) := by
  cases answer with
  | error f => exact .done _
  | ok a => exact .cached fun _ => .done _

/-- Of a fill nothing is left, whether it is tried or not and whatever comes of it. -/
theorem keep_erases (id : Uuid) (generation : Except Failure Nat)
    (answer : Except Failure (Option Promotion)) :
    (keep id generation answer).Erases (.done (stored answer)) := by
  cases answer with
  | error f => exact .done _
  | ok found =>
    cases found with
    | none => exact .done _
    | some p =>
      cases generation with
      | error f => exact .done _
      | ok g => exact .cached fun _ => .done _

theorem reply_erases (company : Uuid) (r : Except Failure Promotion) :
    (reply company r).Erases (reply company r) :=
  .of_asks (reply_asks (fun _ => rfl) company r)

/-- A reader that asks the store is a reader without a cache. -/
theorem loadStored_erases (id company : Uuid) :
    (loadStored id >>= reply company).Erases (Operation.get id company).plain := by
  have hload : (loadStored id).Erases (.ask (.store (.find id)) fun a => .done (stored a)) := by
    rw [loadStored_eq]
    exact .cached fun g => .asked rfl fun a => keep_erases id g a
  rw [Operation.plain_get]
  exact hload.bind fun a => reply_erases company a

end Service

/-- Whoever does not read a promotion is not swayed by the cache. -/
theorem Operation.action_erases {o : Operation} (ho : ∀ id company, o ≠ get id company) :
    o.action.Erases o.plain := by
  cases o with
  | create company r => exact .of_asks (create company r).plain_asks
  | list company countries page key => exact .of_asks (list company countries page key).plain_asks
  | count company countries => exact .of_asks (count company countries).plain_asks
  | get id company => exact absurd rfl (ho id company)
  | update id company r =>
    simp only [action, plain, Service.update]
    cases r.changes with
    | error v => exact .done _
    | ok content => exact .asked rfl fun a => Service.settle_erases id a
  | delete id company => exact .asked rfl fun a => Service.settle_erases id a
  | activate id => exact .asked rfl fun a => Service.settle_erases id a

namespace Memory

/-! ### Operations of the cache that fail one by one -/

namespace Environment

/-- The environment without its cache, and without count of what it was asked. -/
def bare (e : Environment) : Environment := { e with cache := {}, tally := {} }

/-- The answer to a question when it is written down which of the next operations of the cache fail.
One that fails leaves the cache as it is. -/
def answerFaulty (q : Ask) (x : List Bool × Environment) : q.Answer × List Bool × Environment :=
  let (a, e) := { x.2 with cache.failing := x.1.head?.getD false }.answer q
  (a, if q.toCache then x.1.tail else x.1, { e with cache.failing := false })

/-- An operation carried out with the cache; it is written down which operations of the cache fail,
in the order in which they are asked. -/
def throughCache (e : Environment) (faults : List Bool) (o : Operation) :
    o.Result × Environment :=
  let (a, _, e) := o.action.run answerFaulty (faults, e)
  (a, e)

def withoutCache (e : Environment) (_ : List Bool) (o : Operation) : o.Result × Environment :=
  e.perform o.plain

variable {e e' : Environment}

theorem bare_answer_cache (r : CacheRequest) (e : Environment) :
    (e.answer (.cache r)).2.bare = e.bare := by
  cases r <;> rfl

/-- What is not asked of the cache is answered the same, whatever is in the cache. -/
theorem answer_congr {q : Ask} (hq : q.toCache = false) (h : e.bare = e'.bare) :
    (e.answer q).1 = (e'.answer q).1 ∧ (e.answer q).2.bare = (e'.answer q).2.bare := by
  obtain ⟨store, refuses, cache, directory, gate, supply, tally⟩ := e
  obtain ⟨store', refuses', cache', directory', gate', supply', tally'⟩ := e'
  simp only [bare, Environment.mk.injEq, true_and, and_true] at h
  obtain ⟨rfl, rfl, rfl, rfl, rfl⟩ := h
  match q with
  | .cache r => cases hq
  | .mint | .companyName _ | .store (.find _) | .store (.list _ _ _) | .store (.count _)
  | .store (.update _ _ _) | .store (.delete _ _) | .store (.activate _) => exact ⟨rfl, rfl⟩
  | .store (.create _ _ _ _) => cases refuses <;> exact ⟨rfl, rfl⟩

/-- Questions that are not for the cache are answered without regard to it. -/
theorem answerFaulty_congr {q : Ask} (hq : q.toCache = false) (h : e.bare = e'.bare)
    (faults : List Bool) :
    (answerFaulty q (faults, e)).1 = (e'.answer q).1 ∧
      (answerFaulty q (faults, e)).2.2.bare = (e'.answer q).2.bare :=
  answer_congr (e := { e with cache.failing := faults.head?.getD false }) hq h

/-- Questions for the cache leave all the rest as it is, also where the cache fails. -/
theorem bare_answerFaulty_cache (r : CacheRequest) (faults : List Bool) (e : Environment) :
    (answerFaulty (.cache r) (faults, e)).2.2.bare = e.bare :=
  bare_answer_cache r { e with cache.failing := faults.head?.getD false }

/-- A dialogue that the cache does not sway ends as it does without a cache. -/
theorem run_erased {α : Type} {d d' : Action α} (h : d.Erases d') (he : e.bare = e'.bare)
    (faults : List Bool) :
    (d.run answerFaulty (faults, e)).1 = (e'.perform d').1 ∧
      (d.run answerFaulty (faults, e)).2.2.bare = (e'.perform d').2.bare := by
  induction h generalizing e e' faults with
  | done a => exact ⟨rfl, he⟩
  | @asked q next next' hq _ ih =>
    obtain ⟨hanswer, hbare⟩ := answerFaulty_congr hq he faults
    have hnext := ih (answerFaulty q (faults, e)).1 hbare (answerFaulty q (faults, e)).2.1
    rw [hanswer] at hnext
    simpa only [perform, Dialogue.run, hanswer] using hnext
  | @cached r next d _ ih =>
    exact ih (answerFaulty (.cache r) (faults, e)).1
      ((bare_answerFaulty_cache r faults e).trans he) (answerFaulty (.cache r) (faults, e)).2.1

/-- A dialogue that only reads changes nothing but the cache. -/
theorem bare_run_of_reads {α : Type} {d : Action α} (h : d.Asks (·.reads = true))
    (faults : List Bool) (e : Environment) :
    (d.run answerFaulty (faults, e)).2.2.bare = e.bare := by
  induction d generalizing faults e with
  | done a => rfl
  | ask q next ih =>
    have hanswer : (answerFaulty q (faults, e)).2.2.bare = e.bare := by
      match q with
      | .cache r => exact bare_answerFaulty_cache r faults e
      | .companyName _ | .store (.find _) | .store (.list _ _ _) | .store (.count _) => rfl
      | .mint | .store (.create _ _ _ _) | .store (.update _ _ _) | .store (.delete _ _)
      | .store (.activate _) => cases h.1
    exact (ih _ (h.2 _) _ _).trans hanswer

variable {id company : Uuid} {faults : List Bool}

/-- A reader leaves everything but the cache and the counts as it was. -/
theorem bare_throughCache_of_reads {o : Operation} (ho : o.reads = true) (faults : List Bool)
    (e : Environment) : (e.throughCache faults o).2.bare = e.bare :=
  bare_run_of_reads (Operation.action_reads ho) faults e

theorem bare_perform_plain_get (e : Environment) (id company : Uuid) :
    (e.perform (Operation.get id company).plain).2.bare = e.bare := by
  have hreads : (Operation.get id company).plain.Asks (·.reads = true) := by
    rw [Operation.plain_get]
    exact ⟨rfl, fun a => Service.reply_asks (fun _ => rfl) company _⟩
  have hsame := run_erased (.of_asks (Operation.get id company).plain_asks)
    (rfl : e.bare = e.bare) []
  exact hsame.2.symm.trans (bare_run_of_reads hreads [] e)

/-! ### A reader that finds nothing in the cache -/

/-- The cache has no promotion for a reader: it fails to look, or there is no text that can be
read. -/
def Misses (e : Environment) (faults : List Bool) (id : Uuid) : Prop :=
  faults.head? = some true ∨
    ∀ text p, e.cache.find? (detailKey id) = some text → Promotion.parse text ≠ .ok p

theorem answer_find (e : Environment) (key : String) :
    (e.answer (.cache (.find key))).1 =
      if e.cache.failing then .error (Cache.refused "GET") else .ok (e.cache.find? key) := by
  simp only [answer, answerCache, Cache.answer]
  split <;> rfl

theorem answerFaulty_find (faults : List Bool) (e : Environment) (key : String) :
    (answerFaulty (.cache (.find key)) (faults, e)).1 =
      if faults.head?.getD false then .error (Cache.refused "GET") else .ok (e.cache.find? key) :=
  answer_find { e with cache.failing := faults.head?.getD false } key

/-- What a reader is given by the cache was read from a text in it. -/
theorem find?_of_cached {p : Promotion}
    (h : Service.cached (answerFaulty (.cache (.find (detailKey id))) (faults, e)).1 = some p) :
    faults.head?.getD false = false ∧
      ∃ text, e.cache.find? (detailKey id) = some text ∧ Promotion.parse text = .ok p := by
  obtain ⟨text, hanswer, hparse⟩ := Service.exists_of_cached h
  rw [answerFaulty_find] at hanswer
  split at hanswer
  · cases hanswer
  · rename_i hworking
    exact ⟨by simpa using hworking, text, Except.ok.inj hanswer, hparse⟩

theorem Misses.cached_eq_none (h : e.Misses faults id) :
    Service.cached (answerFaulty (.cache (.find (detailKey id))) (faults, e)).1 = none := by
  cases hcached : Service.cached (answerFaulty (.cache (.find (detailKey id))) (faults, e)).1 with
  | none => rfl
  | some p =>
    obtain ⟨hhead, text, hfind, hparse⟩ := find?_of_cached hcached
    rcases h with hfault | hnone
    · simp [hfault] at hhead
    · exact absurd hparse (hnone text p hfind)

/-- A reader goes on with what the cache has answered. -/
theorem run_get (faults : List Bool) (e : Environment) (id company : Uuid) :
    (Operation.get id company).action.run answerFaulty (faults, e) =
      (Service.proceed id (answerFaulty (.cache (.find (detailKey id))) (faults, e)).1 >>=
        Service.reply company).run answerFaulty
          (answerFaulty (.cache (.find (detailKey id))) (faults, e)).2 := by
  rw [Operation.action, Service.get_eq, Service.load_eq]
  rfl

/-- One that has found nothing goes on as one that asks the store. -/
theorem Misses.run_get (h : e.Misses faults id) (company : Uuid) :
    (Operation.get id company).action.run answerFaulty (faults, e) =
      (Service.loadStored id >>= Service.reply company).run answerFaulty
        (answerFaulty (.cache (.find (detailKey id))) (faults, e)).2 := by
  rw [Environment.run_get, Service.proceed, h.cached_eq_none]

/-- A reader that finds nothing in the cache comes to the same result as one that has no cache. -/
theorem Misses.throughCache_get (h : e.Misses faults id) (he : e.bare = e'.bare) (company : Uuid) :
    (e.throughCache faults (.get id company)).1 = (e'.withoutCache faults (.get id company)).1 := by
  have hbare : (answerFaulty (.cache (.find (detailKey id))) (faults, e)).2.2.bare = e'.bare :=
    (bare_answerFaulty_cache ..).trans he
  rw [throughCache, h.run_get company]
  exact (run_erased (Service.loadStored_erases id company) hbare _).1

/-! ### As long as nothing fails -/

/-- Nothing that is asked makes the cache fail or work. -/
theorem failing_answer (q : Ask) (e : Environment) :
    (e.answer q).2.cache.failing = e.cache.failing := by
  match q with
  | .mint | .companyName _ | .store (.find _) | .store (.list _ _ _) | .store (.count _)
  | .store (.update _ _ _) | .store (.delete _ _) | .store (.activate _)
  | .cache (.generation _) => rfl
  | .store (.create _ _ _ _) =>
    simp only [answer, answerStore]
    split <;> rfl
  | .cache (.find _) | .cache (.fill _ _ _) | .cache (.invalidate _) =>
    simp only [answer, answerCache, Cache.answer]
    repeat' split
    all_goals rfl

/-- Faults that are not there make no difference. -/
theorem run_faultless {α : Type} (d : Action α) (hfaults : true ∉ faults)
    (hworking : e.cache.failing = false) :
    (d.run answerFaulty (faults, e)).1 = (e.perform d).1 ∧
      (d.run answerFaulty (faults, e)).2.2 = (e.perform d).2 := by
  induction d generalizing e faults with
  | done a => exact ⟨rfl, rfl⟩
  | ask q next ih =>
    have hhead : faults.head?.getD false = false := by
      cases faults with
      | nil => rfl
      | cons b rest =>
        simp only [List.mem_cons, not_or] at hfaults
        simpa using hfaults.1
    have hanswered : (e.answer q).2.cache.failing = false := (failing_answer q e).trans hworking
    have hanswer : answerFaulty q (faults, e) =
        ((e.answer q).1, if q.toCache then faults.tail else faults, (e.answer q).2) := by
      have hset {x : Environment} (hx : x.cache.failing = false) :
          { x with cache.failing := false } = x := by
        rw [← hx]
      simp only [answerFaulty, hhead, hset hworking, hset hanswered]
    have hrest : true ∉ if q.toCache then faults.tail else faults := by
      split
      · exact fun h => hfaults (List.mem_of_mem_tail h)
      · exact hfaults
    have hnext := ih (e.answer q).1 hrest hanswered
    simpa only [perform, Dialogue.run, hanswer] using hnext

theorem throughCache_faultless (hfaults : true ∉ faults) (hworking : e.cache.failing = false)
    (o : Operation) : e.throughCache faults o = e.perform o.action := by
  obtain ⟨hresult, hafter⟩ := run_faultless o.action hfaults hworking
  exact Prod.ext hresult hafter

theorem perform_ask {α : Type} (e : Environment) (q : Ask) (next : q.Answer → Action α) :
    e.perform (.ask q next) = (e.answer q).2.perform (next (e.answer q).1) := rfl

theorem perform_bind {α β : Type} (e : Environment) (d : Action α) (k : α → Action β) :
    e.perform (d >>= k) = (e.perform d).2.perform (k (e.perform d).1) :=
  Dialogue.run_bind ..

theorem cache_perform_reply (e : Environment) (company : Uuid) (r : Except Failure Promotion) :
    (e.perform (Service.reply company r)).2.cache = e.cache := by
  cases r with
  | error f => rfl
  | ok p =>
    simp only [Service.reply]
    split <;> rfl

/-- A reader that asks the store leaves the promotion's text in the cache. -/
theorem cache_perform_loadStored (hworking : e.cache.failing = false) (id : Uuid) :
    (e.perform (Service.loadStored id)).2.cache =
      (e.store.find? id).elim e.cache fun p => e.cache.put (detailKey id) p.print := by
  have hgeneration : e.answer (.cache (.generation (detailKey id))) =
      (.ok (e.cache.generation (detailKey id)), e) := by
    simp [answer, answerCache, Cache.answer, hworking]
  have hfind : e.answer (.store (.find id)) = (.ok (e.store.find? id), e) := rfl
  rw [Service.loadStored_eq, perform_ask, hgeneration, perform_ask, hfind]
  cases e.store.find? id with
  | none => rfl
  | some p =>
    change (e.answer (.cache (.fill (detailKey id) p.print _))).2.cache = _
    simp [answer, answerCache, Cache.answer, hworking]

/-- Looking for a text leaves the texts as they are. -/
theorem cache_answerFaulty_find (faults : List Bool) (e : Environment) (key : String) :
    (answerFaulty (.cache (.find key)) (faults, e)).2.2.cache =
      { e.cache with failing := false } := by
  simp only [answerFaulty, answer, answerCache, Cache.answer]
  split <;> rfl

/-- A reader that finds nothing in the cache leaves there what the store has, as long as no other
operation of the cache fails. -/
theorem Misses.cache_throughCache_get (h : e.Misses faults id) (company : Uuid)
    (hfaults : true ∉ faults.tail) :
    (e.throughCache faults (.get id company)).2.cache =
      (e.store.find? id).elim { e.cache with failing := false } fun p =>
        { e.cache with failing := false }.put (detailKey id) p.print := by
  -- What is left to do after the look-up is done with nothing failing.
  let x := (answerFaulty (.cache (.find (detailKey id))) (faults, e)).2.2
  have hx : x.bare = e.bare := bare_answerFaulty_cache ..
  have hstore : x.store = e.store := congrArg (·.store) hx
  have hafter : (e.throughCache faults (.get id company)).2 =
      (x.perform (Service.loadStored id >>= Service.reply company)).2 := by
    rw [throughCache, h.run_get company]
    exact (run_faultless _ hfaults rfl).2
  rw [hafter, perform_bind, cache_perform_reply, cache_perform_loadStored rfl, hstore,
    cache_answerFaulty_find]

end Environment

end Memory

end Promotions
