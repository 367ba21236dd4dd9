import Promotions.Proofs.Listings
import Promotions.Proofs.Promises
import Promotions.Proofs.Schedules
import Promotions.Proofs.Stores

/-!
Where promotions come from. Whatever is in the store, lies in the cache as a text or has been
returned can be traced to the company that it says it belongs to: a call of that company has created
it, with its mode and its codes, and its content is what that company has asked for then or later.
It takes no more than that the cache is not written by others. It may be stale, and its operations
may fail.
-/

namespace Promotions.Memory

/-! ### Calls that go on -/

/-- A later moment of a call. What it has returned, it has returned for good. -/
def Call.Continues (c c' : Call) : Prop :=
  c'.operation = c.operation ∧ ∀ x, c.returned? = some x → c'.returned? = some x

/-- A call has created a promotion as a company has asked for it. -/
def Call.Created (c : Call) (id company : Uuid) (r : CreateRequest) : Prop :=
  c.returned? = some ⟨.create company r, .ok id⟩

def Call.created? (c : Call) : Option Uuid :=
  match c.returned? with
  | some ⟨.create _ _, .ok id⟩ => some id
  | _ => none

theorem Call.Created.created? {c : Call} {id company : Uuid} {r : CreateRequest}
    (h : c.Created id company r) : c.created? = some id := by
  rw [Call.created?, h]

/-- A call that has created a promotion has created it for good. -/
theorem Call.Continues.created? {c c' : Call} (h : c.Continues c') {id : Uuid}
    (hid : c.created? = some id) : c'.created? = some id := by
  cases hreturned : c.returned? with
  | none =>
    rw [Call.created?, hreturned] at hid
    cases hid
  | some x =>
    rw [Call.created?, hreturned] at hid
    rw [Call.created?, h.2 x hreturned]
    exact hid

/-- A call that has returned is at its end. -/
theorem Call.eq_of_returned? {c : Call} {o : Operation} {a : o.Result}
    (h : c.returned? = some ⟨o, a⟩) :
    ∃ captured counted, c = ⟨o, .asking (.done a), captured, counted⟩ := by
  obtain ⟨o', stage, captured, counted⟩ := c
  rcases stage with (b | ⟨q, next⟩) | ⟨id, p, next⟩ | ⟨copy, next⟩ | _ <;> cases h
  exact ⟨captured, counted, rfl⟩

theorem Call.returned?_eq_none_of_step {c : Call} {ch : Choice} {caller : Nat} {s : Shared}
    {x : Stage c.operation.Result × Shared × Option Note}
    (h : c.stage.step ch caller s = some x) : c.returned? = none := by
  obtain ⟨o, stage, captured, counted⟩ := c
  rcases stage with (b | ⟨q, next⟩) | ⟨id, p, next⟩ | ⟨copy, next⟩ | _
  · cases h
  all_goals rfl

theorem Call.returned?_eq_none_of_unfinished {c : Call} (h : c.stage.unfinished = true) :
    c.returned? = none := by
  obtain ⟨o, stage, captured, counted⟩ := c
  rcases stage with (b | ⟨q, next⟩) | ⟨id, p, next⟩ | ⟨copy, next⟩ | _
  · cases h
  all_goals rfl

namespace System

variable {s s' : System} {id company : Uuid}

/-- Every call goes on in the next move, or stays where it is. -/
theorem exists_continues_of_next {m : Move} (hm : s.next m = some s') {i : Nat} {c : Call}
    (hc : s.calls[i]? = some c) : ∃ c', s'.calls[i]? = some c' ∧ c.Continues c' := by
  have hsame : c.Continues c := ⟨rfl, fun _ h => h⟩
  have hset {d : Call} {j : Nat} (hd : s.calls[j]? = some d) (d' : Call)
      (hcontinues : d.Continues d') :
      ∃ c', (s.calls.set j d')[i]? = some c' ∧ c.Continues c' := by
    by_cases hij : j = i
    · subst hij
      obtain rfl := Option.some.inj (hd.symm.trans hc)
      exact ⟨d', List.getElem?_set_self (List.getElem?_eq_some_iff.mp hc).1, hcontinues⟩
    · exact ⟨c, by rw [List.getElem?_set_ne hij, hc], hsame⟩
  cases happens_of_next hm with
  | begin o =>
    exact ⟨c, by rw [List.getElem?_append_left (List.getElem?_eq_some_iff.mp hc).1, hc], hsame⟩
  | advance hd hstep =>
    refine hset hd _ ⟨rfl, fun x hx => ?_⟩
    rw [Call.returned?_eq_none_of_step hstep] at hx
    cases hx
  | abandon hd hunfinished =>
    refine hset hd _ ⟨rfl, fun x hx => ?_⟩
    rw [Call.returned?_eq_none_of_unfinished hunfinished] at hx
    cases hx
  | failCache _ | failCodes _ => exact ⟨c, hc, hsame⟩

/-- Every call of a moment is there after any schedule, at a later moment of its own. -/
theorem exists_continues_of_run {ms : List Move} (hrun : s.run ms = some s') {i : Nat} {c : Call}
    (hc : s.calls[i]? = some c) : ∃ c', s'.calls[i]? = some c' ∧ c.Continues c' := by
  refine run_induction hrun (P := fun t => ∃ c', t.calls[i]? = some c' ∧ c.Continues c')
    ⟨c, hc, rfl, fun _ h => h⟩ ?_
  rintro t m t' - ⟨c₁, hc₁, hoperation₁, hreturned₁⟩ hm
  obtain ⟨c₂, hc₂, hoperation₂, hreturned₂⟩ := exists_continues_of_next hm hc₁
  exact ⟨c₂, hc₂, hoperation₂.trans hoperation₁, fun x hx => hreturned₂ x (hreturned₁ x hx)⟩

/-! ### Who has created what -/

def Made (s : System) (id company : Uuid) : Prop := ∃ c ∈ s.calls, ∃ r, c.Created id company r

/-- No two calls have created promotions under the same identifier. -/
def IdsFresh (s : System) : Prop := (s.calls.filterMap Call.created?).Nodup

/-- Identifiers are fresh if two calls that have created the same one are the same call. -/
theorem idsFresh_iff : s.IdsFresh ↔ ∀ (i j : Nat) (c d : Call), s.calls[i]? = some c →
    s.calls[j]? = some d → ∀ id, c.created? = some id → d.created? = some id → i = j := by
  rw [IdsFresh, List.Nodup, List.pairwise_filterMap, List.pairwise_iff_getElem]
  constructor
  · intro h i j c d hc hd id hcid hdid
    obtain ⟨hi, rfl⟩ := List.getElem?_eq_some_iff.mp hc
    obtain ⟨hj, rfl⟩ := List.getElem?_eq_some_iff.mp hd
    rcases Nat.lt_trichotomy i j with hlt | heq | hgt
    · exact absurd rfl (h i j hi hj hlt id hcid id hdid)
    · exact heq
    · exact absurd rfl (h j i hj hi hgt id hdid id hcid)
  · rintro h i j hi hj hlt id hcid x hdid rfl
    have hsame := h i j _ _ (List.getElem?_eq_getElem hi) (List.getElem?_eq_getElem hj) id hcid hdid
    omega

/-- What a promotion says apart from its counts is what calls of its company have asked for: one has
created it with its mode and its codes, and its content is the one that it was created with or one
that a call of that company was to replace it with. -/
def Vouches (s : System) (p : Promotion) : Prop :=
  ∃ r draft, (∃ c ∈ s.calls, c.Created p.id p.companyId r) ∧ r.draft p.companyId = .ok draft ∧
    p.mode = draft.budget.mode ∧ p.codes.map CodeCount.issued = draft.budget.pool ∧
    (p.content = draft.content ∨ ∃ c ∈ s.calls, ∃ u, c.operation = .update p.id p.companyId u ∧
      u.changes = .ok p.content)

/-- Counts are of no account for what is vouched for. -/
theorem Vouches.of_terms {p q : Promotion} (hterms : p.terms = q.terms) (h : s.Vouches p) :
    s.Vouches q := by
  obtain ⟨hid, hcompany, hmode, hcontent, -, hcodes⟩ := Promotion.terms_eq_iff.mp hterms
  rw [Vouches, hid, hcompany, hmode, hcontent, hcodes] at h
  exact h

theorem Vouches.made {p : Promotion} (h : s.Vouches p) : s.Made p.id p.companyId := by
  obtain ⟨r, -, ⟨c, hc, hcreated⟩, -⟩ := h
  exact ⟨c, hc, r, hcreated⟩

/-- Companies do not create under each other's identifiers. -/
theorem IdsFresh.company_eq (h : s.IdsFresh) {company' : Uuid} (hmade : s.Made id company)
    (hmade' : s.Made id company') : company = company' := by
  obtain ⟨c, hc, r, hcreated⟩ := hmade
  obtain ⟨d, hd, r', hcreated'⟩ := hmade'
  obtain ⟨i, hi⟩ := List.mem_iff_getElem?.mp hc
  obtain ⟨j, hj⟩ := List.mem_iff_getElem?.mp hd
  obtain rfl := idsFresh_iff.mp h i j c d hi hj id hcreated.created? hcreated'.created?
  obtain rfl := Option.some.inj (hi.symm.trans hj)
  cases Option.some.inj (hcreated.symm.trans hcreated')
  rfl

/-- What was fresh in the end was fresh all along. -/
theorem IdsFresh.of_run (h : s'.IdsFresh) {ms : List Move} (hrun : s.run ms = some s') :
    s.IdsFresh := by
  refine idsFresh_iff.mpr fun i j c d hc hd id hcid hdid => ?_
  obtain ⟨c', hc', hcontinues⟩ := exists_continues_of_run hrun hc
  obtain ⟨d', hd', hcontinues'⟩ := exists_continues_of_run hrun hd
  exact idsFresh_iff.mp h i j c' d' hc' hd' id (hcontinues.created? hcid)
    (hcontinues'.created? hdid)

end System

/-! ### Calls that create -/

inductive Creating (company : Uuid) (r : CreateRequest) : Stage (Except Failure Uuid) → Prop
  | begun : Creating company r (.asking (Service.create company r))
  | storing {id : Uuid} {now : Calendar.Instant} {draft : Draft}
      (hdraft : r.draft company = .ok draft) :
      Creating company r (.asking (.ask (.store (.create id now draft draft.budget.pool))
        fun stored => .done (stored.map fun _ => id)))
  | returned {a : Except Failure Uuid} : Creating company r (.asking (.done a))
  | abandoned : Creating company r .abandoned

/-- A step of such a call leaves the promotions as they are, or it adds the one that was asked for
and returns its identifier. -/
theorem Creating.of_step {company : Uuid} {r : CreateRequest} {st st' : Stage (Except Failure Uuid)}
    {ch : Choice} {caller : Nat} {s s' : Shared} {note : Option Note}
    (h : Creating company r st) (hstep : st.step ch caller s = some (st', s', note)) :
    Creating company r st' ∧ (s'.world = s.world ∧ note = none ∨
      ∃ id now draft, r.draft company = .ok draft ∧
        s'.world = s.world.insert (draft.promotion id now draft.budget.pool) ∧
        note = ((s.world.pool? id).map fun _ => .changed id) ∧
        st' = .asking (.done (.ok id))) := by
  cases h with
  | begun =>
    unfold Service.create at hstep
    cases hdraft : r.draft company with
    | error v =>
      rw [hdraft] at hstep
      cases hstep
    | ok draft =>
      rw [hdraft] at hstep
      cases hstep
      exact ⟨.storing hdraft, Or.inl ⟨rfl, rfl⟩⟩
  | storing hdraft =>
    simp only [Stage.step, Stage.ask] at hstep
    split at hstep <;> cases hstep
    · exact ⟨.returned, Or.inl ⟨rfl, rfl⟩⟩
    · exact ⟨.returned, Or.inr ⟨_, _, _, hdraft, rfl, rfl, rfl⟩⟩
  | returned | abandoned => cases hstep

def Call.Creates : Call → Prop
  | ⟨.create company r, stage, _, _⟩ => Creating company r stage
  | _ => True

namespace Call.Creates

/-- A call that begins to create has asked nothing yet. -/
theorem begin (o : Operation) : (Call.begin o).Creates := by
  cases o with
  | create company r => exact .begun
  | list | count | get | update | delete | activate => trivial

theorem abandon (c : Call) : c.abandon.Creates := by
  obtain ⟨o, stage, captured, counted⟩ := c
  cases o with
  | create company r => exact .abandoned
  | list | count | get | update | delete | activate => trivial

variable {c : Call} {ch : Choice} {caller : Nat} {s s' : Shared} {note : Option Note}
  {st : Stage c.operation.Result}

/-- A creation goes from one of its places to another. -/
theorem advance (h : c.Creates) (hstep : c.stage.step ch caller s = some (st, s', note)) :
    (c.advance st note).Creates := by
  obtain ⟨o, before, captured, counted⟩ := c
  cases o with
  | create company r => exact (h.of_step hstep).1
  | list | count | get | update | delete | activate => trivial

/-- What a call that creates does to the promotions in a step. -/
theorem inserted (h : c.Creates) (hstep : c.stage.step ch caller s = some (st, s', note))
    {company : Uuid} {r : CreateRequest} (ho : c.operation = .create company r) :
    s'.world = s.world ∧ note = none ∨
      ∃ id now draft, r.draft company = .ok draft ∧
        s'.world = s.world.insert (draft.promotion id now draft.budget.pool) ∧
        note = ((s.world.pool? id).map fun _ => .changed id) ∧
        (c.advance st note).Created id company r := by
  obtain ⟨o, before, captured, counted⟩ := c
  subst ho
  rcases (Creating.of_step h hstep).2 with hsame | ⟨id, now, draft, hdraft, hworld, hnote, hst⟩
  · exact Or.inl hsame
  · refine Or.inr ⟨id, now, draft, hdraft, hworld, hnote, ?_⟩
    rw [hst]
    rfl

end Call.Creates

/-! ### The invariant -/

/-- A turn of the cache puts in a text only as its call has promised. -/
theorem Cache.Vouched.of_turn {V : Promotion → Prop} {α : Type} {c c' : Cache} {st : Stage α}
    {note : Option Note} (h : c.Vouched V)
    (hst : ∀ q next, st = .asking (.ask q next) → q.Promises V)
    (t : CacheTurn c st note c') : c'.Vouched V := by
  intro key text hfind
  rcases (t.cases_of_find? hfind).2 with hold | ⟨next, hfill⟩
  · exact h key text hold
  · exact hst _ next hfill

theorem World.Distinct.toStore {w : World} (h : w.Distinct) : w.toStore.Distinct := by
  rw [Store.Distinct, toStore_eq, List.map_map]
  exact h

/-- Identifiers stay unique under every effect of a step. -/
theorem World.Distinct.of_effect {α : Type} {P : Ask → Prop} {w w' : World} {st : Stage α}
    (h : w.Distinct) (he : Effect P w st w') : w'.Distinct := by
  cases he with
  | kept hpools _ =>
    rw [Distinct, hpools]
    exact h
  | counted _ => exact h
  | created _ => exact h.insert _
  | rewritten _ _ => exact h.rewrite ..
  | removed _ _ => exact h.remove _

namespace System

variable {g : Nat → Int} {s s' final : System}

/-- All promotions are vouched for in the end, in the store and in the cache, and every call keeps
its promises from here on. -/
structure Traced (final s : System) : Prop where
  stored : s.shared.world.All final.Vouches
  cached : s.shared.cache.Vouched final.Vouches
  calls : ∀ c ∈ s.calls, c.stage.Keeps final.Vouches (c.operation.Yields final.Vouches)
    s.shared.world
  creates : ∀ c ∈ s.calls, c.Creates
  distinct : s.shared.world.Distinct

/-- Promotions that are vouched for, after a step of a call. A new one was asked for by the call
that has just created it, and the content of a promotion is replaced by a call of its company. -/
theorem Traced.stored_advance (h : Traced final s) (hsound : s.Sound g) (hposes : s.Poses)
    {caller : Nat} {ch : Choice} {c : Call} {shared : Shared} {stage : Stage c.operation.Result}
    {note : Option Note} (hc : s.calls[caller]? = some c)
    (hstep : c.stage.step ch caller s.shared = some (stage, shared, note)) {rest : List Move}
    (hrest : run ⟨shared, s.calls.set caller (c.advance stage note),
      note.toList ++ s.history⟩ rest = some final) : shared.world.All final.Vouches := by
  have hmem : c ∈ s.calls := List.mem_of_getElem? hc
  have hlater : (s.calls.set caller (c.advance stage note))[caller]? =
      some (c.advance stage note) :=
    List.getElem?_set_self (List.getElem?_eq_some_iff.mp hc).1
  obtain ⟨last, hlast, hoperation, hreturned⟩ := exists_continues_of_run hrest hlater
  have hlast : last ∈ final.calls := List.mem_of_getElem? hlast
  by_cases ho : ∃ company r, c.operation = .create company r
  · obtain ⟨company, r, ho⟩ := ho
    rcases (h.creates c hmem).inserted hstep ho with
      ⟨hworld, -⟩ | ⟨id, now, draft, hdraft, hworld, -, hcreated⟩
    · rw [hworld]
      exact h.stored
    · rw [hworld]
      have hcompany := CreateRequest.companyId_of_draft hdraft
      subst hcompany
      exact h.stored.insert hsound.layout ⟨r, draft, ⟨last, hlast, hreturned _ hcreated⟩, hdraft,
        rfl, draft.issued_promotion .., Or.inl rfl⟩
  · have hgrows := (hsound.turn hc hstep).grows (hsound.room c hmem)
    have hcounted (hpools : shared.world.pools = s.shared.world.pools) :
        shared.world.All final.Vouches :=
      h.stored.of_grows (fun _ _ => Vouches.of_terms) hsound.layout hgrows hpools
    have heffect : Effect c.operation.Poses s.shared.world c.stage shared.world :=
      Effect.of_steps (hposes c hmem) (Stage.steps_of_step hstep)
    generalize shared.world = w at heffect hcounted
    cases heffect with
    | kept hpools _ => exact hcounted hpools
    | counted _ => exact hcounted rfl
    | created hasked =>
      obtain ⟨company, r, hcreate, -⟩ := hasked
      exact absurd ⟨company, r, hcreate⟩ ho
    | @rewritten id company content hasked howned =>
      obtain ⟨u, hupdate, hchanges⟩ := hasked
      obtain ⟨q, hq, howner⟩ := Store.exists_of_owned howned
      refine h.stored.rewrite fun p hp hid => ?_
      obtain rfl : q = p := Option.some.inj
        (hq.symm.trans (h.distinct.toStore.find?_eq_some_iff.mpr ⟨hp, hid⟩))
      subst hid howner
      obtain ⟨r, draft, hcreated, hdraft, hmode, hcodes, -⟩ := h.stored q hp
      exact ⟨r, draft, hcreated, hdraft, hmode, hcodes,
        Or.inr ⟨last, hlast, u, hoperation.trans hupdate, hchanges⟩⟩
    | removed _ _ => exact h.stored.remove _

/-- A step keeps everything vouched for. What it stores was asked for by its call, which is there in
the end as well. -/
theorem Traced.advance (h : Traced final s) (hsound : s.Sound g) (hposes : s.Poses)
    {caller : Nat} {ch : Choice} {c : Call} {shared : Shared} {stage : Stage c.operation.Result}
    {note : Option Note} (hc : s.calls[caller]? = some c)
    (hstep : c.stage.step ch caller s.shared = some (stage, shared, note)) {rest : List Move}
    (hrest : run ⟨shared, s.calls.set caller (c.advance stage note),
      note.toList ++ s.history⟩ rest = some final) :
    Traced final ⟨shared, s.calls.set caller (c.advance stage note), note.toList ++ s.history⟩ := by
  have hmem : c ∈ s.calls := List.mem_of_getElem? hc
  have hs := Stage.steps_of_step hstep
  have hgrows := (hsound.turn hc hstep).grows (hsound.room c hmem)
  refine ⟨h.stored_advance hsound hposes hc hstep hrest, ?_, ?_, ?_, ?_⟩
  · exact h.cached.of_turn (fun _ _ => (h.calls c hmem).promises) (CacheTurn.of_steps hs)
  · intro d hd
    rcases of_mem_set hd with rfl | ⟨j, -, hj⟩
    · exact (h.calls c hmem).of_steps (fun _ _ => Vouches.of_terms) h.stored h.cached hs
    · have hd := List.mem_of_getElem? hj
      exact (h.calls d hd).mono hgrows (hsound.placed d hd).rows_lt
  · intro d hd
    rcases of_mem_set hd with rfl | ⟨j, -, hj⟩
    · exact (h.creates c hmem).advance hstep
    · exact h.creates d (List.mem_of_getElem? hj)
  · exact h.distinct.of_effect (Effect.of_steps (hposes c hmem) hs)

/-- Whatever happens on the way to the end, everything is vouched for. -/
theorem Traced.next (h : Traced final s) (hsound : s.Sound g) (hposes : s.Poses) {m : Move}
    (hm : s.next m = some s') {rest : List Move} (hrest : s'.run rest = some final) :
    Traced final s' := by
  cases happens_of_next hm with
  | begin o =>
    have hmem {P : Call → Prop} (hold : ∀ c ∈ s.calls, P c) (hnew : P (.begin o)) :
        ∀ c ∈ s.calls ++ [.begin o], P c := by
      simpa [or_imp, forall_and] using ⟨hold, hnew⟩
    exact ⟨h.stored, h.cached, hmem h.calls o.action_keeps, hmem h.creates (.begin o), h.distinct⟩
  | advance hc hstep => exact h.advance hsound hposes hc hstep hrest
  | @abandon caller c hc _ =>
    have hgrows := grows_letGo s.shared.world c.stage.held?
    refine ⟨?_, h.cached, ?_, ?_, ?_⟩
    · exact h.stored.of_grows (fun _ _ => Vouches.of_terms) hsound.layout hgrows (pools_letGo ..)
    · intro d hd
      rcases of_mem_set hd with rfl | ⟨j, -, hj⟩
      · trivial
      · have hd := List.mem_of_getElem? hj
        exact (h.calls d hd).mono hgrows (hsound.placed d hd).rows_lt
    · intro d hd
      rcases of_mem_set hd with rfl | ⟨j, -, hj⟩
      · exact .abandon c
      · exact h.creates d (List.mem_of_getElem? hj)
    · rw [World.Distinct, pools_letGo]
      exact h.distinct
  | failCache _ | failCodes _ => exact ⟨h.stored, h.cached, h.calls, h.creates, h.distinct⟩

/-- Whatever the schedule: everything can be traced after it. -/
theorem traced_run {cache : Cache} (hempty : cache.entries = []) {ms : List Move}
    (hrun : (start {} cache).run ms = some s) : Traced s s := by
  refine (sound_start {} cache).induction_along (poses_start {} cache) hrun ?_
    fun t m t' rest ht htposes htraced hm hrest => htraced.next ht htposes hm hrest
  refine ⟨?_, ?_, ?_, ?_, List.nodup_nil⟩
  · intro p hp
    cases hp
  · intro key text hfind
    simp [start, Cache.find?, hempty] at hfind
  · intro c hc
    cases hc
  · intro c hc
    cases hc

/-- A new promotion has an identifier that no promotion has yet. -/
theorem Traced.find?_eq_none_of_created (h : Traced s s) (hfresh : s'.IdsFresh) {caller : Nat}
    {ch : Choice} (hm : s.next (.advance caller ch) = some s') {c c' : Call}
    (hc : s.calls[caller]? = some c) (hunreturned : c.returned? = none)
    (hc' : s'.calls[caller]? = some c') {id : Uuid} (hid : c'.created? = some id) :
    s.store.find? id = none := by
  by_contra hsome
  obtain ⟨p, hp⟩ := Option.ne_none_iff_exists'.mp hsome
  obtain ⟨hmem, rfl⟩ := Store.mem_of_find? hp
  obtain ⟨d, hd, r, hcreated⟩ := (h.stored p hmem).made
  obtain ⟨j, hj⟩ := List.mem_iff_getElem?.mp hd
  obtain ⟨d', hd', hcontinues⟩ := exists_continues_of_next hm hj
  obtain rfl := idsFresh_iff.mp hfresh j caller d' c' hd' hc' p.id
    (hcontinues.created? hcreated.created?) hid
  -- So the promotion was created by the call that has not returned yet.
  obtain rfl := Option.some.inj (hj.symm.trans hc)
  cases hunreturned.symm.trans hcreated

/-- What a call has returned is as it should be. -/
theorem Traced.yields (h : Traced final s) {c : Call} (hc : c ∈ s.calls) {o : Operation}
    {a : o.Result} (hreturned : c.returned? = some ⟨o, a⟩) : o.Yields final.Vouches a := by
  obtain ⟨captured, counted, rfl⟩ := Call.eq_of_returned? hreturned
  exact h.calls _ hc

end System

end Promotions.Memory
