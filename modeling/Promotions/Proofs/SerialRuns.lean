import Promotions.Proofs.PlainService

/-!
Serial runs of the service with its cache and of the service without one. Whatever the cache holds
and whichever of its operations fail, both runs leave the same stores behind and come to the same
results, save for readers that found a text in the cache. As long as nothing fails in the cache and
nobody else puts texts there that can be read, readers come to the same results too.
-/

namespace Promotions.Memory

variable {e e' : Environment} {id company : Uuid} {faults : List Bool}

namespace Environment

/-! ### As long as the cache tells the truth -/

/-- The cache works, and what is read from a text in it is what the store has. -/
structure Coherent (e : Environment) : Prop where
  working : e.cache.failing = false
  entries : ∀ id text p, e.cache.find? (detailKey id) = some text →
    Promotion.parse text = .ok p → e.store.find? id = some p

theorem cache_answer {q : Ask} (hq : q.toCache = false) (e : Environment) :
    (e.answer q).2.cache = e.cache := by
  match q with
  | .cache r => cases hq
  | .mint | .companyName _ | .store (.find _) | .store (.list _ _ _) | .store (.count _)
  | .store (.update _ _ _) | .store (.delete _ _) | .store (.activate _) => rfl
  | .store (.create _ _ _ _) =>
    simp only [answer, answerStore]
    split <;> rfl

/-- What asks nothing of the cache leaves it as it is. -/
theorem cache_perform_of_asks {α : Type} {d : Action α} (h : d.Asks (·.toCache = false))
    (e : Environment) : (e.perform d).2.cache = e.cache := by
  induction d generalizing e with
  | done a => rfl
  | ask q next ih =>
    rw [perform_ask, ih _ (h.2 _), cache_answer h.1]

theorem perform_erased {α : Type} {d d' : Action α} (h : d.Erases d') (he : e.bare = e'.bare)
    (hworking : e.cache.failing = false) : (e.perform d).1 = (e'.perform d').1 := by
  rw [← (run_faultless d List.not_mem_nil hworking).1]
  exact (run_erased h he []).1

/-- A new promotion has the identifier that was minted for it. -/
theorem store_perform_create (e : Environment) (company : Uuid) (r : CreateRequest) :
    (e.perform (Service.create company r)).2.store = e.store ∨
      ∃ p, p.id = e.supply.take.1.1 ∧
        (e.perform (Service.create company r)).2.store = e.store.insert p := by
  unfold Service.create
  cases r.draft company with
  | error v => exact Or.inl rfl
  | ok d =>
    cases hrefuses : e.refusesCodes with
    | true =>
      left
      change ((e.answer .mint).2.answer (.store (.create _ _ d _))).2.store = _
      simp [answer, answerStore, hrefuses]
    | false =>
      refine Or.inr ⟨d.promotion e.supply.take.1.1 e.supply.take.1.2 d.budget.pool, rfl, ?_⟩
      change ((e.answer .mint).2.answer (.store (.create _ _ d _))).2.store = _
      simp only [answer, answerStore, hrefuses, Bool.false_eq_true, if_false]
      rfl

theorem bare_perform_of_reads {o : Operation} (ho : o.reads = true)
    (hworking : e.cache.failing = false) : (e.perform o.action).2.bare = e.bare := by
  rw [← throughCache_faultless List.not_mem_nil hworking]
  exact bare_throughCache_of_reads ho [] e

theorem store_perform_of_reads {o : Operation} (ho : o.reads = true)
    (hworking : e.cache.failing = false) : (e.perform o.action).2.store = e.store := by
  have hbare := bare_perform_of_reads ho hworking
  exact congrArg (·.store) hbare

namespace Coherent

theorem congr (h : e.Coherent) (hcache : e'.cache = e.cache)
    (hstore : ∀ id p, e.store.find? id = some p → e'.store.find? id = some p) : e'.Coherent := by
  refine ⟨hcache ▸ h.working, fun id text p hfind hparse => ?_⟩
  rw [hcache] at hfind
  exact hstore id p (h.entries id text p hfind hparse)

/-- A change to one promotion whose text is declared stale. -/
theorem settle (h : e.Coherent) {α : Type} (answer : Except Failure α)
    (hcache : e'.cache = e.cache) (hothers : ∀ x ≠ id, e'.store.find? x = e.store.find? x)
    (hfailed : ∀ f, answer = .error f → e'.store = e.store) :
    (e'.perform (Service.settle id answer)).2.Coherent := by
  cases answer with
  | error f =>
    refine h.congr hcache fun x p hp => ?_
    rw [← hp, ← hfailed f rfl]
    rfl
  | ok a =>
    have hafter : (e'.perform (Service.settle id (.ok a))).2.cache =
        (e.cache.nextGeneration (detailKey id)).drop (detailKey id) := by
      change (e'.answer (.cache (.invalidate (detailKey id)))).2.cache = _
      simp [Environment.answer, answerCache, Cache.answer, h.working, hcache]
    have hstore : (e'.perform (Service.settle id (.ok a))).2.store = e'.store := rfl
    refine ⟨?_, fun x text p hfind hparse => ?_⟩
    · rw [hafter]
      exact h.working
    · rw [hafter, Cache.find?_drop] at hfind
      split at hfind
      · cases hfind
      · rename_i hx
        have hne : x ≠ id := fun hid => hx (hid ▸ rfl)
        rw [hstore, hothers x hne]
        exact h.entries x text p hfind hparse

/-- A reader that finds a text reads what the store has. -/
theorem perform_get_of_cached (h : e.Coherent) (he : e.bare = e'.bare) {id : Uuid} {p : Promotion}
    (company : Uuid) (hcached : Service.cached (.ok (e.cache.find? (detailKey id))) = some p) :
    (e.perform (Operation.get id company).action).1 =
        (e'.perform (Operation.get id company).plain).1 ∧
      (e.perform (Operation.get id company).action).2.cache = e.cache := by
  have hfound : e.store.find? id = some p := by
    obtain ⟨text, hfind, hparse⟩ := Service.exists_of_cached hcached
    exact h.entries id text p (Except.ok.inj hfind) hparse
  let x := (e.answer (.cache (.find (detailKey id)))).2
  have hx : x.cache = e.cache := by
    simp only [x, Environment.answer, answerCache, Cache.answer]
    split <;> rfl
  have haction : e.perform (Operation.get id company).action =
      x.perform (Service.reply company (.ok p)) := by
    have hproceed : Service.proceed id (e.answer (.cache (.find (detailKey id)))).1 =
        .done (.ok p) := by
      rw [answer_find, h.working, if_neg (by simp), Service.proceed, hcached]
      rfl
    rw [Operation.action, Service.get_eq, Service.load_eq, perform_bind, perform_ask, hproceed]
    rfl
  have hplain : e'.perform (Operation.get id company).plain =
      e'.perform (Service.reply company (.ok p)) := by
    have hstore : e.store = e'.store := congrArg (·.store) he
    have hanswer : e'.answer (.store (.find id)) = (.ok (some p), e') := by
      rw [← hfound, hstore]
      rfl
    rw [Operation.plain_get, perform_ask, hanswer]
    rfl
  rw [haction, hplain]
  refine ⟨perform_erased (Service.reply_erases ..) ?_ (hx ▸ h.working), ?_⟩
  · exact (bare_answer_cache ..).trans he
  · rw [cache_perform_reply, hx]

/-- A reader leaves the cache telling the truth, and comes to the same result as without it. -/
theorem perform_get (h : e.Coherent) (he : e.bare = e'.bare) (id company : Uuid) :
    (e.perform (Operation.get id company).action).1 =
        (e'.perform (Operation.get id company).plain).1 ∧
      (e.perform (Operation.get id company).action).2.Coherent := by
  have hstore := store_perform_of_reads (o := .get id company) rfl h.working
  cases hcached : Service.cached (.ok (e.cache.find? (detailKey id))) with
  | some p =>
    obtain ⟨hresult, hcache⟩ := h.perform_get_of_cached he company hcached
    exact ⟨hresult, h.congr hcache fun x q hq => hstore ▸ hq⟩
  | none =>
    have hmisses : e.Misses [] id := by
      refine Or.inr fun text p hfind hparse => ?_
      rw [hfind, Service.cached, hparse] at hcached
      cases hcached
    have hperform : e.throughCache [] (.get id company) =
        e.perform (Operation.get id company).action :=
      throughCache_faultless List.not_mem_nil h.working _
    refine ⟨hperform ▸ hmisses.throughCache_get he company, ?_⟩
    have hcache := hmisses.cache_throughCache_get company List.not_mem_nil
    rw [hperform] at hcache
    cases hfound : e.store.find? id with
    | none =>
      rw [hfound, Option.elim_none, ← h.working] at hcache
      exact h.congr hcache fun x q hq => hstore ▸ hq
    | some p =>
      rw [hfound, Option.elim_some, ← h.working] at hcache
      refine ⟨hcache ▸ h.working, fun x text q hfind hparse => ?_⟩
      rw [hcache, Cache.find?_put] at hfind
      rw [hstore]
      split at hfind
      · rename_i hx
        obtain rfl := detailKey_injective hx
        obtain rfl := Option.some.inj hfind
        rw [Promotion.parse_print] at hparse
        exact Except.ok.inj hparse ▸ hfound
      · exact h.entries x text q hfind hparse

/-- Whoever calls an operation comes to the same result as without the cache. -/
theorem result (h : e.Coherent) (he : e.bare = e'.bare) (o : Operation) :
    (e.perform o.action).1 = (e'.perform o.plain).1 := by
  by_cases ho : ∃ id company, o = .get id company
  · obtain ⟨id, company, rfl⟩ := ho
    exact (h.perform_get he id company).1
  · exact perform_erased
      (Operation.action_erases fun id company heq => ho ⟨id, company, heq⟩) he h.working

/-- Whoever changes a promotion or creates one leaves the cache telling the truth too, as long as
new identifiers are new. -/
theorem perform (h : e.Coherent) (o : Operation)
    (hfresh : ∀ company r, o = .create company r → e.store.find? e.supply.take.1.1 = none) :
    (e.perform o.action).2.Coherent := by
  cases o with
  | get id company => exact (h.perform_get (rfl : e.bare = e.bare) id company).2
  | create company r =>
    refine h.congr (cache_perform_of_asks (Operation.create company r).plain_asks e) ?_
    intro id p hp
    rcases store_perform_create e company r with hsame | ⟨q, hid, hinsert⟩
    · exact hsame ▸ hp
    · have hne : id ≠ q.id := by
        rintro rfl
        rw [hid, hfresh company r rfl] at hp
        cases hp
      exact hinsert ▸ (Store.find?_insert_of_ne e.store hne).trans hp
  | list company countries page key =>
    refine h.congr (cache_perform_of_asks (Operation.list company countries page key).plain_asks e)
      fun id p hp => ?_
    rw [store_perform_of_reads (o := .list company countries page key) rfl h.working]
    exact hp
  | count company countries => exact h.congr rfl fun _ _ hp => hp
  | update id company r =>
    simp only [Operation.action, Service.update]
    cases r.changes with
    | error v => exact h
    | ok content =>
      exact h.settle _ rfl (fun x hx => Store.find?_update_of_ne e.store content hx)
        fun f hf => Store.update_of_error hf
  | delete id company =>
    exact h.settle _ rfl (fun x hx => Store.find?_delete_of_ne e.store hx)
      fun f hf => Store.delete_of_error hf
  | activate id =>
    let refuse (id : Uuid) (code : String) (g : ScriptedGate) := g.decide id code
    exact h.settle _ rfl (fun x hx => Store.find?_activate_of_ne e.store refuse e.gate hx)
      fun f (hf : (e.store.activate refuse id e.gate).1 = .error f) => Store.activate_of_error hf

end Coherent

end Environment

/-! ### Serial runs -/

inductive Event where
  /-- An operation is carried out; it is written down which operations of the cache fail in it. -/
  | call (o : Operation) (faults : List Bool)
  /-- Somebody else puts a text into the cache. -/
  | seed (key text : String)
  /-- What surrounds the service, besides its store and its cache, becomes something else. -/
  | surround (directory : Directory) (refusesCodes : Bool) (gate : ScriptedGate) (supply : Supply)

structure Served where
  operation : Operation
  result : operation.Result
  store : Store

/-- The same operation with the same result and the same store after it, but a reader may have
another result. -/
inductive Served.Alike : Served → Served → Prop
  | same (a : Served) : Alike a a
  | read {id company : Uuid} (r r' : Except Failure Detail) (s : Store) :
      Alike ⟨.get id company, r, s⟩ ⟨.get id company, r', s⟩

namespace Environment

/-- A way to carry out an operation, when it is written down which operations of the cache fail. -/
abbrev Manner := Environment → List Bool → (o : Operation) → o.Result × Environment

def after (serve : Manner) (e : Environment) : Event → Environment
  | .call o faults => (serve e faults o).2
  | .seed key text => { e with cache := e.cache.put key text }
  | .surround directory refusesCodes gate supply =>
    { e with directory, refusesCodes, gate, supply }

def served? (serve : Manner) (e : Environment) : Event → Option Served
  | .call o faults => some ⟨o, (serve e faults o).1, (serve e faults o).2.store⟩
  | .seed _ _ | .surround _ _ _ _ => none

def serial (serve : Manner) : Environment → List Event → List Served
  | _, [] => []
  | e, event :: events =>
    (e.served? serve event).toList ++ (e.after serve event).serial serve events

/-- Whenever a promotion is to be created in a run without a cache, the identifier that is minted
for it is not one of a stored promotion. -/
def MintsNew : Environment → List Event → Prop
  | _, [] => True
  | e, event :: events =>
    (∀ company r faults, event = .call (.create company r) faults →
      e.store.find? e.supply.take.1.1 = none) ∧ (e.after withoutCache event).MintsNew events

/-! ### Both runs, event by event -/

/-- An event leaves the two runs alike apart from the cache, and is served alike in both. -/
theorem after_alike (he : e.bare = e'.bare) (event : Event) :
    (e.after throughCache event).bare = (e'.after withoutCache event).bare ∧
      List.Forall₂ Served.Alike (e.served? throughCache event).toList
        (e'.served? withoutCache event).toList := by
  have hstore : e.store = e'.store := congrArg (·.store) he
  cases event with
  | call o faults =>
    by_cases ho : ∃ id company, o = .get id company
    · obtain ⟨id, company, rfl⟩ := ho
      have hafter : (e.throughCache faults (.get id company)).2.bare =
          (e'.withoutCache faults (.get id company)).2.bare :=
        (bare_throughCache_of_reads rfl faults e).trans
          (he.trans (bare_perform_plain_get e' id company).symm)
      have hstores : (e.throughCache faults (.get id company)).2.store =
          (e'.withoutCache faults (.get id company)).2.store := congrArg (·.store) hafter
      refine ⟨hafter, .cons ?_ .nil⟩
      rw [hstores]
      exact .read ..
    · have hne : ∀ id company, o ≠ .get id company := fun id company heq => ho ⟨id, company, heq⟩
      obtain ⟨hresult, hafter⟩ := run_erased (Operation.action_erases hne) he faults
      have hresult : (e.throughCache faults o).1 = (e'.withoutCache faults o).1 := hresult
      have hstores : (e.throughCache faults o).2.store = (e'.withoutCache faults o).2.store :=
        congrArg (·.store) hafter
      refine ⟨hafter, .cons ?_ .nil⟩
      rw [hresult, hstores]
      exact .same _
  | seed key text => exact ⟨he, .nil⟩
  | surround directory refusesCodes gate supply =>
    refine ⟨?_, .nil⟩
    simp only [after, bare, hstore]

/-- Both runs serve alike, whatever the cache holds and whichever of its operations fail. -/
theorem serial_alike (he : e.bare = e'.bare) (events : List Event) :
    List.Forall₂ Served.Alike (e.serial throughCache events) (e'.serial withoutCache events) := by
  induction events generalizing e e' with
  | nil => exact .nil
  | cons event events ih =>
    obtain ⟨hafter, hserved⟩ := after_alike he event
    exact List.rel_append hserved (ih hafter)

end Environment

/-- No operation of the cache fails in an event, and nobody else puts a text into the cache that can
be read. -/
def Event.Quiet : Event → Prop
  | .call _ faults => true ∉ faults
  | .seed _ text => ∀ p, Promotion.parse text ≠ .ok p
  | .surround _ _ _ _ => True

namespace Environment

/-- A text that cannot be read does not make the cache tell lies. -/
theorem Coherent.seed (h : e.Coherent) (key : String) {text : String}
    (htext : ∀ p, Promotion.parse text ≠ .ok p) :
    ({ e with cache := e.cache.put key text } : Environment).Coherent := by
  refine ⟨h.working, fun id found p hfind hparse => ?_⟩
  rw [Cache.find?_put] at hfind
  split at hfind
  · obtain rfl := Option.some.inj hfind
    exact absurd hparse (htext p)
  · exact h.entries id found p hfind hparse

/-- As long as the cache tells the truth, both runs serve the same. -/
theorem Coherent.serial (h : e.Coherent) (he : e.bare = e'.bare) {events : List Event}
    (hquiet : ∀ event ∈ events, event.Quiet) (hnew : e'.MintsNew events) :
    e.serial throughCache events = e'.serial withoutCache events := by
  induction events generalizing e e' with
  | nil => rfl
  | cons event events ih =>
    have hstore : e.store = e'.store := congrArg (·.store) he
    have hsupply : e.supply = e'.supply := congrArg (·.supply) he
    obtain ⟨hnow, hlater⟩ := hnew
    have hafter := (after_alike he event).1
    have hboth : e.served? throughCache event = e'.served? withoutCache event ∧
        (e.after throughCache event).Coherent := by
      have hquiet := hquiet event List.mem_cons_self
      cases event with
      | call o faults =>
        have hfresh : ∀ company r, o = .create company r →
            e.store.find? e.supply.take.1.1 = none := by
          rintro company r rfl
          rw [hstore, hsupply]
          exact hnow company r faults rfl
        have hperform := throughCache_faultless hquiet h.working o
        have hresult := h.result he o
        have hcoherent := h.perform o hfresh
        rw [← hperform] at hresult hcoherent
        have hstores : (e.throughCache faults o).2.store = (e'.withoutCache faults o).2.store :=
          congrArg (·.store) hafter
        refine ⟨?_, hcoherent⟩
        simp only [served?, hstores, hresult, withoutCache]
      | seed key text => exact ⟨rfl, h.seed key hquiet⟩
      | surround directory refusesCodes gate supply => exact ⟨rfl, h.working, h.entries⟩
    have hrest := ih hboth.2 hafter (fun x hx => hquiet x (List.mem_cons_of_mem _ hx)) hlater
    simp only [Environment.serial, hboth.1, hrest]

/-- The service with its cache is the service without one, as far as can be seen. In a serial run of
operations, with whatever happens around the service, whatever the cache holds, whichever of its
operations fail and whatever others put into it: every operation but the reading of a promotion has
the result, and every one leaves the store, that it has and leaves in the run without a cache. A
reader whose look-up fails, finds nothing or finds no text that can be read has the result that it
has without a cache, and as long as nothing else fails in the cache, the text of the promotion that
the store has is then there. And if nothing fails in the cache at all, no text that can be read is
put there by others, and the identifiers minted for new promotions are new, then readers have the
results too that they have without a cache. -/
theorem cached_service_is_plain_service (e : Environment) (events : List Event) :
    List.Forall₂ Served.Alike (e.serial throughCache events) (e.bare.serial withoutCache events) ∧
    (∀ (x : Environment) (faults : List Bool) (id company : Uuid), x.Misses faults id →
      (x.throughCache faults (.get id company)).1 =
        (x.bare.withoutCache faults (.get id company)).1 ∧
      (true ∉ faults.tail → ∀ p,
        (x.throughCache faults (.get id company)).2.store.find? id = some p →
          (x.throughCache faults (.get id company)).2.cache.find? (detailKey id) =
            some p.print)) ∧
    (e.cache.failing = false →
      (∀ key text p, e.cache.find? key = some text → Promotion.parse text ≠ .ok p) →
      (∀ event ∈ events, event.Quiet) → e.bare.MintsNew events →
        e.serial throughCache events = e.bare.serial withoutCache events) := by
  have hbare : e.bare = e.bare.bare := rfl
  refine ⟨serial_alike hbare events, fun x faults id company h => ⟨?_, ?_⟩, ?_⟩
  · have hbare : x.bare = x.bare.bare := rfl
    exact h.throughCache_get hbare company
  · intro hfaults p hp
    have hbare := bare_throughCache_of_reads (o := .get id company) rfl faults x
    have hstore : (x.throughCache faults (.get id company)).2.store = x.store :=
      congrArg (·.store) hbare
    rw [hstore] at hp
    rw [h.cache_throughCache_get company hfaults, hp, Option.elim_some, Cache.find?_put,
      if_pos rfl]
  · intro hworking hentries hquiet hnew
    have h : e.Coherent := ⟨hworking, fun id text p hfind hparse =>
      absurd hparse (hentries _ text p hfind)⟩
    exact h.serial hbare hquiet hnew

def bakery : Environment where
  directory := ⟨[(Supply.idAt 7, "Padaria")], false⟩

/-- The bakery creates a promotion, reads it twice, and once more after an activation. Somebody puts
a text into the cache that cannot be read. -/
def readAroundActivation : List Event :=
  let request : CreateRequest :=
    ⟨"UNIQUE", none, some ["ONE", "TWO"], none, "Dez por cento", none, {}, none, none⟩
  [.call (.create (Supply.idAt 7) request) [], .seed (detailKey (Supply.idAt 1)) "?",
    .call (.get (Supply.idAt 1) (Supply.idAt 7)) [],
    .call (.get (Supply.idAt 1) (Supply.idAt 7)) [], .call (.activate (Supply.idAt 1)) [],
    .call (.get (Supply.idAt 1) (Supply.idAt 7)) []]

/-- The five calls end with the cache as they do without it. -/
theorem read_around_activation_plain :
    (bakery.serial throughCache readAroundActivation).length = 5 ∧
      bakery.serial throughCache readAroundActivation =
        bakery.bare.serial withoutCache readAroundActivation := by
  have hunreadable : ∀ p, Promotion.parse "?" ≠ .ok p := by
    have hnone : (Promotion.parse "?").toOption = none := by decide +kernel
    intro p hp
    rw [hp] at hnone
    cases hnone
  refine ⟨by decide +kernel,
    (cached_service_is_plain_service bakery readAroundActivation).2.2 rfl ?_ ?_ ?_⟩
  · intro key text p hfind
    cases hfind
  · simp only [readAroundActivation, List.forall_mem_cons, Event.Quiet]
    exact ⟨List.not_mem_nil, hunreadable, List.not_mem_nil, List.not_mem_nil, List.not_mem_nil,
      List.not_mem_nil, fun event h => by cases h⟩
  · refine ⟨?_, ?_, ?_, ?_, ?_, ?_, trivial⟩
    · intro company r faults h
      rfl
    all_goals
      intro company r faults h
      cases h

end Environment

end Promotions.Memory
