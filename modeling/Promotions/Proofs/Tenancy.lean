import Promotions.Proofs.SerialRuns
import Promotions.Proofs.Settling
import Promotions.Proofs.WellFormed

/-!
Companies are kept apart. A company that asks for a promotion of another one is refused, wherever
the promotion was read; whatever a company does, the promotions of the others stay as they are; and
nothing that it is returned was created by another one. As long as the cache tells the truth, what
it is returned does not depend on what the promotions of the others say at all.
-/

namespace Promotions

/-- The company that calls an operation. Whoever activates a promotion is of no company. -/
def Operation.company? : Operation → Option Uuid
  | create company _ | list company _ _ _ | count company _ | get _ company | update _ company _
  | delete _ company => some company
  | activate _ => none

namespace Memory

/-! ### Asking for promotions of others -/

namespace Store

variable {s : Store} {id company : Uuid} {p : Promotion}

theorem update_result (s : Store) (id company : Uuid) (content : Content) :
    (s.update id company content).1 = s.owned id company := by
  unfold update
  cases s.owned id company <;> rfl

theorem delete_result (s : Store) (id company : Uuid) :
    (s.delete id company).1 = s.owned id company := by
  unfold delete
  cases s.owned id company <;> rfl

theorem owned_of_foreign (hp : s.find? id = some p) (hforeign : p.companyId ≠ company) :
    s.owned id company = .error .permissionDenied := by
  rw [owned, hp]
  exact if_neg hforeign

end Store

namespace Environment

variable {e : Environment} {id company : Uuid} {p : Promotion}

/-- A company that asks for a promotion is refused, and the store stays as it is, whichever
operations of the cache fail. -/
structure Refuses (e : Environment) (id company : Uuid) : Prop where
  get : ∀ faults, (e.throughCache faults (.get id company)).1 = .error .permissionDenied ∧
    (e.throughCache faults (.get id company)).2.store = e.store
  update : ∀ faults r content, r.changes = .ok content →
    (e.throughCache faults (.update id company r)).1 = .error .permissionDenied ∧
      (e.throughCache faults (.update id company r)).2.store = e.store
  delete : ∀ faults, (e.throughCache faults (.delete id company)).1 = .error .permissionDenied ∧
    (e.throughCache faults (.delete id company)).2.store = e.store

theorem result_plain_get (e : Environment) (id company : Uuid) :
    (e.perform (Operation.get id company).plain).1 =
      (e.perform (Service.reply company (Service.stored (.ok (e.store.find? id))))).1 := by
  rw [Operation.plain_get]
  rfl

theorem result_reply_of_foreign {p : Promotion} (hforeign : p.companyId ≠ company)
    (e : Environment) :
    (e.perform (Service.reply company (.ok p))).1 = .error .permissionDenied := by
  simp only [Service.reply, if_neg hforeign]
  rfl

/-- A promotion of another company is refused when whatever the cache has of it is one of another
company too. -/
theorem refuses_of_foreign (hp : e.store.find? id = some p) (hforeign : p.companyId ≠ company)
    (hcached : ∀ text q, e.cache.find? (detailKey id) = some text →
      Promotion.parse text = .ok q → q.companyId ≠ company) : e.Refuses id company := by
  have howned := Store.owned_of_foreign hp hforeign
  refine ⟨fun faults => ⟨?_, ?_⟩, fun faults r content hchanges => ?_, fun faults => ?_⟩
  · have hbare : (answerFaulty (.cache (.find (detailKey id))) (faults, e)).2.2.bare = e.bare :=
      bare_answerFaulty_cache ..
    rw [throughCache, run_get]
    cases hfound : Service.cached
        (answerFaulty (.cache (.find (detailKey id))) (faults, e)).1 with
    | none =>
      rw [Service.proceed, hfound]
      have hplain := (run_erased (Service.loadStored_erases id company) hbare
        (answerFaulty (.cache (.find (detailKey id))) (faults, e)).2.1).1
      rw [hplain, result_plain_get, hp]
      exact result_reply_of_foreign hforeign e
    | some q =>
      obtain ⟨-, text, hfind, hparse⟩ := find?_of_cached hfound
      have hreply : Service.reply company (.ok q) = .done (.error .permissionDenied) :=
        if_neg (hcached text q hfind hparse)
      rw [Service.proceed, hfound]
      change (Dialogue.run answerFaulty (Service.reply company (.ok q)) _).1 = _
      rw [hreply]
      rfl
  · exact congrArg (·.store) (bare_throughCache_of_reads (o := .get id company) rfl faults e)
  · have hresult : (e.store.update id company content).1 = .error .permissionDenied :=
      (Store.update_result ..).trans howned
    have hplain : (Operation.update id company r).plain =
        Action.store (.update id company content) := by
      rw [Operation.plain, hchanges]
    obtain ⟨hsame, hbare⟩ := run_erased
      (Operation.action_erases (o := .update id company r) (fun _ _ h => by cases h))
      (rfl : e.bare = e.bare) faults
    rw [hplain] at hsame hbare
    refine ⟨hsame.trans hresult, (congrArg (·.store) hbare).trans ?_⟩
    exact Store.update_of_error hresult
  · have hresult : (e.store.delete id company).1 = .error .permissionDenied :=
      (Store.delete_result ..).trans howned
    obtain ⟨hsame, hbare⟩ := run_erased
      (Operation.action_erases (o := .delete id company) (fun _ _ h => by cases h))
      (rfl : e.bare = e.bare) faults
    refine ⟨hsame.trans hresult, (congrArg (·.store) hbare).trans ?_⟩
    exact Store.delete_of_error hresult

end Environment

/-! ### What a company leaves as it is -/

namespace Store

variable {s : Store} {id company : Uuid}

def others (s : Store) (company : Uuid) : List Promotion :=
  s.promotions.filter fun p => p.companyId ≠ company

/-- To remove a promotion of a company leaves those of the others. -/
theorem others_remove (hown : ∀ p ∈ s.promotions, p.id = id → p.companyId = company) :
    (s.remove id).others company = s.others company := by
  simp only [others, remove, List.filter_filter]
  refine List.filter_congr fun p hp => ?_
  by_cases hid : p.id = id
  · simp [hown p hp hid]
  · simp [hid]

/-- To insert a new promotion of a company leaves those of the others. -/
theorem others_insert {p : Promotion} (hp : p.companyId = company) (hnew : s.find? p.id = none) :
    (s.insert p).others company = s.others company := by
  have hremoved : (s.remove p.id).others company = s.others company := by
    refine others_remove fun q hq hid => ?_
    have := List.find?_eq_none.mp hnew q hq
    simp [hid] at this
  rw [← hremoved]
  simp [others, insert, hp]

theorem others_modify {change : Promotion → Promotion}
    (hchange : ∀ p, (change p).companyId = p.companyId)
    (hown : ∀ p ∈ s.promotions, p.id = id → p.companyId = company) :
    (s.modify id change).others company = s.others company := by
  have hcompany (p : Promotion) : (if p.id = id then change p else p).companyId = p.companyId := by
    split
    · exact hchange p
    · rfl
  simp only [others, modify, List.filter_map, Function.comp_def, hcompany]
  refine (List.map_congr_left fun p hp => ?_).trans (List.map_id _)
  obtain ⟨hp, hforeign⟩ := List.mem_filter.mp hp
  have hid : p.id ≠ id := fun hid => by simp [hown p hp hid] at hforeign
  exact if_neg hid

end Store

/-- What changes neither the promotions nor the counts of their rows changes nothing. -/
theorem World.toStore_congr {w w' : World} (hpools : w'.pools = w.pools)
    (hcounts : ∀ r, w'.count? r = w.count? r) : w'.toStore = w.toStore := by
  have hpresent : w'.present = w.present := by
    funext pool
    rw [present, present, funext hcounts]
  rw [toStore_eq, toStore_eq, hpools, hpresent]

def Move.caller? : Move → Option Nat
  | .advance caller _ | .abandon caller => some caller
  | _ => none

namespace System

variable {g : Nat → Int} {s s' : System} {id company : Uuid}

/-- A step of a call of a company leaves the promotions of the others. -/
theorem Traced.others_advance (h : Traced s s) (hsound : s.Sound g) (hposes : s.Poses)
    {caller : Nat} {ch : Choice} {c : Call} {shared : Shared} {stage : Stage c.operation.Result}
    {note : Option Note} (hc : s.calls[caller]? = some c)
    (hcompany : c.operation.company? = some company)
    (hstep : c.stage.step ch caller s.shared = some (stage, shared, note))
    (hfresh : IdsFresh ⟨shared, s.calls.set caller (c.advance stage note),
      note.toList ++ s.history⟩) :
    shared.world.toStore.others company = s.store.others company := by
  have hmem : c ∈ s.calls := List.mem_of_getElem? hc
  by_cases ho : ∃ company r, c.operation = .create company r
  · obtain ⟨x, r, ho⟩ := ho
    obtain rfl : x = company := by simpa [ho, Operation.company?] using hcompany
    rcases (h.creates c hmem).inserted hstep ho with
      ⟨hworld, -⟩ | ⟨id, now, draft, hdraft, hworld, -, hcreated⟩
    · rw [hworld]
      rfl
    · have hlater : (s.calls.set caller (c.advance stage note))[caller]? =
          some (c.advance stage note) :=
        List.getElem?_set_self (List.getElem?_eq_some_iff.mp hc).1
      have hnew := h.find?_eq_none_of_created hfresh (next_advance hc hstep) hc
        (Call.returned?_eq_none_of_step hstep) hlater hcreated.created?
      rw [hworld, World.toStore_insert hsound.layout]
      exact Store.others_insert (CreateRequest.companyId_of_draft hdraft) hnew
  · have heffect : Effect c.operation.Poses s.shared.world c.stage shared.world :=
      Effect.of_steps (hposes c hmem) (Stage.steps_of_step hstep)
    have hown {x owner : Uuid} (howned : s.shared.world.toStore.owned x owner = .ok ()) :
        ∀ p ∈ s.store.promotions, p.id = x → p.companyId = owner := by
      obtain ⟨q, hq, rfl⟩ := Store.exists_of_owned howned
      intro p hp hid
      rw [h.distinct.toStore.find?_eq_some_iff.mpr ⟨hp, hid⟩] at hq
      exact congrArg _ (Option.some.inj hq)
    generalize shared.world = w at heffect
    cases heffect with
    | kept hpools hcounts => rw [World.toStore_congr hpools hcounts, store]
    | counted hbefore =>
      have hactivates : ∀ x, c.operation ≠ .activate x := by
        intro x hx
        rw [hx] at hcompany
        cases hcompany
      obtain ⟨o, before, captured, counted⟩ := c
      have hquiet := ((Call.placed_iff hactivates _ _ _).mp (hsound.placed _ hmem)).1
      dsimp only at hbefore
      rw [hbefore] at hquiet
      cases hquiet
    | created hasked =>
      obtain ⟨x, r, hcreate, -⟩ := hasked
      exact absurd ⟨x, r, hcreate⟩ ho
    | rewritten hasked howned =>
      obtain ⟨u, hupdate, -⟩ := hasked
      rw [hupdate] at hcompany
      cases hcompany
      rw [World.toStore_rewrite]
      exact Store.others_modify (fun _ => rfl) (hown howned)
    | removed hasked howned =>
      rw [hasked] at hcompany
      cases hcompany
      rw [World.toStore_remove]
      exact Store.others_remove (hown howned)

/-- A move of a call leaves the promotions of all companies but the one that calls as they are,
unless the call is an activation. -/
theorem Traced.others_next (h : Traced s s) (hsound : s.Sound g) (hposes : s.Poses) {m : Move}
    {caller : Nat} {c : Call} (hcaller : m.caller? = some caller) (hc : s.calls[caller]? = some c)
    (hcompany : c.operation.company? = some company) (hm : s.next m = some s')
    (hfresh : s'.IdsFresh) : s'.store.others company = s.store.others company := by
  cases happens_of_next hm with
  | @advance _ _ d _ _ _ hd hstep =>
    cases hcaller
    obtain rfl := Option.some.inj (hc.symm.trans hd)
    exact h.others_advance hsound hposes hc hcompany hstep hfresh
  | @abandon _ d _ _ =>
    have hsame := World.toStore_congr (pools_letGo s.shared.world d.stage.held?)
      (count?_letGo s.shared.world d.stage.held?)
    exact congrArg (Store.others · company) hsame
  | begin _ | failCache _ | failCodes _ => cases hcaller

end System

/-! ### Stores that a company cannot tell apart -/

/-- Two stores with the same promotions of a company, and with promotions of the same other
companies under the same identifiers. -/
structure Store.AgreeFor (company : Uuid) (s s' : Store) : Prop where
  own : ∀ p, p.companyId = company → (p ∈ s.promotions ↔ p ∈ s'.promotions)
  owners : ∀ id owner, owner ≠ company →
    ((∃ p ∈ s.promotions, p.id = id ∧ p.companyId = owner) ↔
      ∃ p ∈ s'.promotions, p.id = id ∧ p.companyId = owner)

namespace Store

/-- What two stores have under an identifier: the same, or promotions of other companies. -/
inductive Found (company : Uuid) : Option Promotion → Option Promotion → Prop
  | same (found : Option Promotion) : Found company found found
  | foreign {p q : Promotion} (hp : p.companyId ≠ company) (hq : q.companyId ≠ company) :
      Found company (some p) (some q)

variable {s s' : Store} {company : Uuid}

theorem AgreeFor.of_eq
    (hown : (s.promotions.filter fun p => p.companyId = company) =
      s'.promotions.filter fun p => p.companyId = company)
    (howners : (s.promotions.map fun p => (p.id, p.companyId)) =
      s'.promotions.map fun p => (p.id, p.companyId)) : s.AgreeFor company s' := by
  refine ⟨fun p hp => ?_, fun id owner _ => ?_⟩
  · have hmem : p ∈ s.promotions.filter (fun p => p.companyId = company) ↔
        p ∈ s'.promotions.filter fun p => p.companyId = company := by rw [hown]
    simpa [hp] using hmem
  · have hmem : (id, owner) ∈ (s.promotions.map fun p => (p.id, p.companyId)) ↔
        (id, owner) ∈ s'.promotions.map fun p => (p.id, p.companyId) := by rw [howners]
    simpa using hmem

/-- Stores that agree for a company have the same under an identifier, or promotions of other
companies. -/
theorem AgreeFor.found (h : s.AgreeFor company s') (hs : s.Distinct) (hs' : s'.Distinct)
    (id : Uuid) : Found company (s.find? id) (s'.find? id) := by
  cases hp : s.find? id with
  | none =>
    cases hq : s'.find? id with
    | none => exact .same none
    | some q =>
      obtain ⟨hq, hid⟩ := mem_of_find? hq
      obtain ⟨p, hmem, hpid⟩ : ∃ p ∈ s.promotions, p.id = id := by
        by_cases howner : q.companyId = company
        · exact ⟨q, (h.own q howner).mpr hq, hid⟩
        · obtain ⟨p, hmem, hpid, -⟩ := (h.owners id q.companyId howner).mpr ⟨q, hq, hid, rfl⟩
          exact ⟨p, hmem, hpid⟩
      rw [hs.find?_eq_some_iff.mpr ⟨hmem, hpid⟩] at hp
      cases hp
  | some p =>
    obtain ⟨hp, hid⟩ := mem_of_find? hp
    by_cases howner : p.companyId = company
    · rw [hs'.find?_eq_some_iff.mpr ⟨(h.own p howner).mp hp, hid⟩]
      exact .same _
    · obtain ⟨q, hq, hqid, hqowner⟩ := (h.owners id p.companyId howner).mp ⟨p, hp, hid, rfl⟩
      rw [hs'.find?_eq_some_iff.mpr ⟨hq, hqid⟩]
      exact .foreign howner (hqowner.symm ▸ howner)

theorem AgreeFor.owned_eq (h : s.AgreeFor company s') (hs : s.Distinct) (hs' : s'.Distinct)
    (id : Uuid) : s.owned id company = s'.owned id company := by
  have hfound := h.found hs hs' id
  unfold owned
  generalize s.find? id = found, s'.find? id = found' at hfound
  cases hfound with
  | same found => rfl
  | foreign hp hq => simp [hp, hq]

theorem AgreeFor.accepted (h : s.AgreeFor company s') (countries : List String) (p : Promotion)
    (hp : (Filter.of company countries).accepts p = true) :
    p ∈ s.promotions ↔ p ∈ s'.promotions :=
  h.own p (Filter.companyId_of_accepts hp)

end Store

namespace Environment

variable {e e' : Environment} {company : Uuid}

/-- Environments in which companies have the same names, the same identifier and time are minted
next, and the store takes in codes or does not. -/
structure Matches (e e' : Environment) : Prop where
  names : ∀ company, e.directory.name company = e'.directory.name company
  minted : e.supply.take.1 = e'.supply.take.1
  refuses : e.refusesCodes = e'.refusesCodes

/-- Who asks for nothing but names is returned the same. -/
theorem result_congr_of_names {α : Type} {d : Action α}
    (h : d.Asks fun q => ∃ c, q = .companyName c)
    (hnames : ∀ company, e.directory.name company = e'.directory.name company) :
    (e.perform d).1 = (e'.perform d).1 := by
  induction d generalizing e e' with
  | done a => rfl
  | ask q next ih =>
    obtain ⟨⟨c, rfl⟩, hnext⟩ := h
    have hanswer : (e.answer (.companyName c)).1 = (e'.answer (.companyName c)).1 := hnames c
    rw [perform_ask, perform_ask, hanswer]
    exact ih _ (hnext _) hnames

theorem answer_create (e : Environment) (id : Uuid) (now : Calendar.Instant) (d : Draft)
    (codes : List NewCode) : (e.answer (.store (.create id now d codes))).1 =
      if e.refusesCodes then .error codesRefused else .ok () := by
  simp only [answer, answerStore]
  split <;> rfl

theorem result_create (e : Environment) (company : Uuid) (r : CreateRequest) :
    (e.perform (Service.create company r)).1 =
      match r.draft company with
      | .error v => .error (.ofViolation v)
      | .ok _ => if e.refusesCodes then .error codesRefused else .ok e.supply.take.1.1 := by
  unfold Service.create
  cases r.draft company with
  | error v => rfl
  | ok d =>
    change Except.map (fun _ => e.supply.take.1.1)
      ((e.answer .mint).2.answer (.store (.create _ _ d _))).1 = _
    rw [answer_create]
    change Except.map _ (if e.refusesCodes then _ else _) = _
    split <;> rfl

/-- Without a cache, what a company is returned depends on nothing but its own promotions and on
who owns the others. -/
theorem result_plain_congr (h : e.store.AgreeFor company e'.store) (hs : e.store.Distinct)
    (hs' : e'.store.Distinct) (hmatches : e.Matches e') {o : Operation}
    (ho : o.company? = some company) : (e.perform o.plain).1 = (e'.perform o.plain).1 := by
  cases o with
  | create company r =>
    change (e.perform (Service.create company r)).1 = (e'.perform (Service.create company r)).1
    rw [result_create, result_create, hmatches.minted, hmatches.refuses]
  | list x countries page key =>
    obtain rfl := Option.some.inj ho
    have hlisting := Store.listing_congr hs hs' (h.accepted countries) key
    change (e.perform (Service.named [] (page.cut (e.store.listing (.of x countries) key)))).1 =
      (e'.perform (Service.named [] (page.cut (e'.store.listing (.of x countries) key)))).1
    rw [hlisting]
    exact result_congr_of_names (Service.named_asks (fun c => ⟨c, rfl⟩) _ []) hmatches.names
  | count x countries =>
    obtain rfl := Option.some.inj ho
    have hcount := Store.count_congr hs hs' (h.accepted countries)
    exact congrArg (fun n : Nat => Except.ok (n : Int)) hcount
  | get id x =>
    obtain rfl := Option.some.inj ho
    have hfound := h.found hs hs' id
    rw [result_plain_get, result_plain_get]
    generalize e.store.find? id = found, e'.store.find? id = found' at hfound
    cases hfound with
    | same found =>
      exact result_congr_of_names (Service.reply_asks (fun c => ⟨c, rfl⟩) x _) hmatches.names
    | foreign hp hq =>
      exact (result_reply_of_foreign hp e).trans (result_reply_of_foreign hq e').symm
  | update id x r =>
    obtain rfl := Option.some.inj ho
    simp only [Operation.plain]
    cases r.changes with
    | error v => rfl
    | ok content =>
      change (e.store.update id x content).1 = (e'.store.update id x content).1
      rw [Store.update_result, Store.update_result, h.owned_eq hs hs']
  | delete id x =>
    obtain rfl := Option.some.inj ho
    change (e.store.delete id x).1 = (e'.store.delete id x).1
    rw [Store.delete_result, Store.delete_result, h.owned_eq hs hs']
  | activate id => cases ho

end Environment

/-! ### Companies kept apart -/

namespace System

variable {g : Nat → Int} {s s' : System}

/-- An environment that has the store and the cache of this moment. -/
structure Surrounds (e : Environment) (s : System) : Prop where
  store : e.store = s.store
  cache : e.cache = s.shared.cache

/-- What a company may be shown: a promotion that says what calls of this company have asked for,
and that no call of another one has created. -/
structure Shows (s : System) (company : Uuid) (d : Detail) : Prop where
  owner : d.promotion.companyId = company
  vouched : s.Vouches d.promotion
  made : ∀ other, s.Made d.promotion.id other → other = company

theorem IdsFresh.shows (h : s.IdsFresh) {company : Uuid} {d : Detail}
    (hvouched : s.Vouches d.promotion) (hcompany : d.promotion.companyId = company) :
    s.Shows company d :=
  ⟨hcompany, hvouched, fun _ hmade =>
    (h.company_eq hmade hvouched.made).trans hcompany⟩

/-- Whatever the cache has under the key of a promotion belongs to the owner of the promotion. -/
theorem Traced.refuses (h : Traced s s) (hfresh : s.IdsFresh) {e : Environment}
    (he : Surrounds e s) {id company : Uuid} {p : Promotion} (hp : s.store.find? id = some p)
    (hforeign : p.companyId ≠ company) : e.Refuses id company := by
  refine Environment.refuses_of_foreign (he.store ▸ hp) hforeign fun text q hfind hparse => ?_
  obtain ⟨p', rfl, hvouched, hkey⟩ := h.cached _ _ (he.cache ▸ hfind)
  rw [Promotion.parse_print] at hparse
  obtain rfl := Except.ok.inj hparse
  obtain ⟨hmem, rfl⟩ := Store.mem_of_find? hp
  have hmade := hvouched.made
  rw [← detailKey_injective hkey] at hmade
  exact hfresh.company_eq (h.stored p hmem).made hmade ▸ hforeign

/-- In a state in which no write is left to be settled, the cache tells the truth. -/
theorem Healthy.coherent (h : s.Healthy) (hcoherent : s.Coherent) {e : Environment}
    (he : Surrounds e s) : e.Coherent := by
  refine ⟨he.cache ▸ h.working, fun id text p hfind hparse => ?_⟩
  obtain ⟨q, hq, rfl⟩ := hcoherent.entries id text (he.cache ▸ hfind) (h.settled id)
  rw [Promotion.parse_print] at hparse
  obtain rfl := Except.ok.inj hparse
  exact he.store ▸ hq

/-- Companies are kept apart. From an empty store and an empty cache, whatever calls are made, in
whatever order their steps are taken, whichever operations of the cache fail and whichever calls are
given up, as long as no identifier is minted twice:
a company that asks for a promotion of another one, to read, change or delete it, is refused and
leaves the store as it is, whatever the cache has of the promotion and whichever of its operations
fail then;
whatever a call of a company does in a step, the promotions of the other companies stay as they are,
unless the call is an activation;
a promotion that a company is shown, be it from a stale text, belongs to it, says what calls of this
company have asked for, and was created by no call of another one.
And in two such states that hold the same promotions of a company, and promotions of the same other
companies under the same identifiers, every operation but an activation returns this company the
same, as long as the cache is healthy in both and they answer alike otherwise. The cache is healthy
when it has not failed, no call was given up and all calls have returned. -/
theorem companies_are_kept_apart {cache : Cache} {ms : List Move} {s : System}
    (hempty : cache.entries = []) (hrun : (start {} cache).run ms = some s) (hfresh : s.IdsFresh)
    (company : Uuid) :
    (∀ id p, s.store.find? id = some p → p.companyId ≠ company →
      ∀ e : Environment, Surrounds e s → e.Refuses id company) ∧
    (∀ m caller c s', m.caller? = some caller → s.calls[caller]? = some c →
      c.operation.company? = some company → s.next m = some s' → s'.IdsFresh →
        s'.store.others company = s.store.others company) ∧
    (∀ c ∈ s.calls,
      (∀ id d, c.returned? = some ⟨.get id company, .ok d⟩ → s.Shows company d) ∧
      ∀ countries page key ds, c.returned? = some ⟨.list company countries page key, .ok ds⟩ →
        ∀ d ∈ ds, s.Shows company d) ∧
    (∀ cache' ms' s', cache'.entries = [] → (start {} cache').run ms' = some s' →
      s.Healthy → s'.Healthy → s.store.AgreeFor company s'.store →
        ∀ e e' : Environment, Surrounds e s → Surrounds e' s' → e.Matches e' →
          ∀ o : Operation, o.company? = some company →
            (e.perform o.action).1 = (e'.perform o.action).1) ∧
    (cache.failing = false → (∀ m ∈ ms, m.benign = true) →
      (∀ c ∈ s.calls, c.returned?.isSome = true) → s.Healthy) := by
  have hsound := ((sound_start {} cache).run hrun).1
  have hposes : s.Poses := run_induction hrun (poses_start {} cache) fun _ _ _ _ h hm => h.next hm
  have htraced := traced_run hempty hrun
  refine ⟨?_, ?_, ?_, ?_, fun hworking => healthy_of_run hempty hworking hrun hfresh⟩
  · intro id p hp hforeign e he
    exact htraced.refuses hfresh he hp hforeign
  · intro m caller c s' hcaller hc hcompany hm hfresh'
    exact htraced.others_next hsound hposes hcaller hc hcompany hm hfresh'
  · refine fun c hc => ⟨fun id d hreturned => ?_, fun countries page key ds hreturned d hd => ?_⟩
    · obtain ⟨hvouched, -, hcompany⟩ := htraced.yields hc hreturned
      exact hfresh.shows hvouched hcompany
    · obtain ⟨hvouched, hcompany⟩ := htraced.yields hc hreturned d hd
      exact hfresh.shows hvouched hcompany
  · intro cache' ms' s' hempty' hrun' hhealthy hhealthy' hagree e e' he he' hmatches o ho
    have hcoherent := (coherent_start {} hempty).run (sound_start {} cache) hrun
    have hcoherent' := (coherent_start {} hempty').run (sound_start {} cache') hrun'
    have hdistinct' := (traced_run hempty' hrun').distinct.toStore
    rw [(hhealthy.coherent hcoherent he).result (rfl : e.bare = e.bare) o,
      (hhealthy'.coherent hcoherent' he').result (rfl : e'.bare = e'.bare) o]
    rw [← he.store, ← he'.store] at hagree
    exact Environment.result_plain_congr hagree (he.store ▸ htraced.distinct.toStore)
      (he'.store ▸ hdistinct') hmatches ho

def neighbours : List Move :=
  let mint (n : Nat) : Choice := { minted := (Supply.idAt n, Supply.timeAt 0) }
  [.begin (.create (Supply.idAt 1) sharedCode), .begin (.create (Supply.idAt 2) sharedCode),
    .advance 0 (mint 3), .advance 1 (mint 4), .advance 0 {}, .advance 1 {}]

/-- The first of them reads its promotion and then changes it. -/
def readAndChanged : List Move :=
  [.begin (.get (Supply.idAt 3) (Supply.idAt 1)),
    .begin (.update (Supply.idAt 3) (Supply.idAt 1) grownUpsOnly)] ++
    turns [2, 2, 2, 2, 2, 2, 2, 2, 2, 3, 3]

def outline (s : System) : List Uuid × Bool × List Promotion × List (Uuid × Uuid) :=
  (s.calls.filterMap Call.created?, s.calls.all (·.returned?.isSome),
    s.store.promotions.filter fun p => p.companyId = Supply.idAt 2,
    s.store.promotions.map fun p => (p.id, p.companyId))

/-- The second company is refused the promotion of the first, and cannot tell that it was
changed. -/
theorem neighbour_sees_no_difference : ∃ s s',
    (start {} {}).run neighbours = some s ∧
      (start {} {}).run (neighbours ++ readAndChanged) = some s' ∧
      s.store.promotions ≠ s'.store.promotions ∧
      ∀ e e' : Environment, Surrounds e s → Surrounds e' s' → e.Matches e' →
        e.Refuses (Supply.idAt 3) (Supply.idAt 2) ∧
          ∀ o : Operation, o.company? = some (Supply.idAt 2) →
            (e.perform o.action).1 = (e'.perform o.action).1 := by
  obtain ⟨s, hs⟩ := Option.isSome_iff_exists.mp
    (by decide +kernel : ((start {} {}).run neighbours).isSome)
  obtain ⟨s', hs'⟩ := Option.isSome_iff_exists.mp
    (by decide +kernel : ((start {} {}).run (neighbours ++ readAndChanged)).isSome)
  have hcreated : ((start {} {}).run neighbours).map (fun s => (s.outline.1, s.outline.2.1)) =
      some ([Supply.idAt 3, Supply.idAt 4], true) := by decide +kernel
  have houtline : ((start {} {}).run neighbours).map outline =
      ((start {} {}).run (neighbours ++ readAndChanged)).map outline := by decide +kernel
  have hchanged : ((start {} {}).run neighbours).map (·.store.promotions) ≠
      ((start {} {}).run (neighbours ++ readAndChanged)).map (·.store.promotions) := by
    decide +kernel
  have howner : ((start {} {}).run neighbours).map
      (fun s => (s.store.find? (Supply.idAt 3)).map (·.companyId)) =
        some (some (Supply.idAt 1)) := by decide +kernel
  simp only [hs, hs', Option.map_some, Option.some.injEq, ne_eq, outline, Prod.mk.injEq]
    at hcreated houtline hchanged howner
  obtain ⟨hids, hall⟩ := hcreated
  obtain ⟨hids', hall', hown, howners⟩ := houtline
  have hfresh : s.IdsFresh := by
    rw [IdsFresh, hids]
    decide +kernel
  have hfresh' : s'.IdsFresh := by
    rw [IdsFresh, ← hids', hids]
    decide +kernel
  have happly := companies_are_kept_apart rfl hs hfresh (Supply.idAt 2)
  have hhealthy : s.Healthy := happly.2.2.2.2 rfl (by decide) (List.all_eq_true.mp hall)
  have hhealthy' : s'.Healthy :=
    (companies_are_kept_apart rfl hs' hfresh' (Supply.idAt 2)).2.2.2.2 rfl (by decide)
      (List.all_eq_true.mp (hall'.symm.trans hall))
  refine ⟨s, s', hs, hs', hchanged, fun e e' he he' hmatches => ⟨?_, ?_⟩⟩
  · obtain ⟨p, hp, hcompany⟩ := Option.map_eq_some_iff.mp howner
    exact happly.1 (Supply.idAt 3) p hp (hcompany ▸ by decide +kernel) e he
  · exact happly.2.2.2.1 {} _ s' rfl hs' hhealthy hhealthy' (.of_eq hown howners) e e' he he'
      hmatches

end System

end Memory

end Promotions
