import Promotions.Proofs.Edits
import Promotions.Proofs.SerialRuns

/-!
Operations that do not depend on one another. An operation that is about one promotion sees nothing
of the store and the cache but what they have of this promotion, and it changes nothing else. So two
operations on different promotions may come in either order. Two on the same one may if one of them
replaces its content and the other one activates it: neither sees what the other one changes.
-/

namespace Promotions

/-! ### Questions about one promotion -/

def Ask.About (x : Uuid) : Ask → Prop
  | .store (.find id) | .store (.update id _ _) | .store (.delete id _) | .store (.activate id) =>
    id = x
  | .cache r => r.key = detailKey x
  | .companyName _ => True
  | .mint | .store (.create _ _ _ _) | .store (.list _ _ _) | .store (.count _) => False

/-- An operation on a promotion asks about nothing else. -/
theorem Operation.action_asks_about {o : Operation} {x : Uuid} (ho : o.target? = some x) :
    o.action.Asks (Ask.About x) := by
  refine o.action_poses.imp fun q hq => ?_
  match q with
  | .store (.find _) =>
    obtain ⟨company, rfl⟩ := hq
    exact Option.some.inj ho
  | .store (.update _ _ _) =>
    obtain ⟨r, rfl, -⟩ := hq
    exact Option.some.inj ho
  | .store (.delete _ _) | .store (.activate _) =>
    obtain rfl := hq
    exact Option.some.inj ho
  | .cache (.find _) | .cache (.generation _) | .cache (.fill _ _ _) =>
    obtain ⟨id, company, rfl, rfl⟩ := hq
    exact congrArg detailKey (Option.some.inj ho)
  | .cache (.invalidate _) =>
    obtain ⟨id, hid, rfl⟩ := hq
    exact congrArg detailKey (Option.some.inj (hid.symm.trans ho))
  | .companyName _ => trivial
  | .mint | .store (.create _ _ _ _) =>
    obtain ⟨company, r, rfl, -⟩ := hq
    cases ho
  | .store (.list _ _ _) | .store (.count _) =>
    obtain ⟨company, countries, rfl, -⟩ := hq
    cases ho

namespace Memory

/-! ### The cache at one key -/

namespace Cache

variable {c c' : Cache} {key : String}

structure SameAt (key : String) (c c' : Cache) : Prop where
  text : c.find? key = c'.find? key
  generation : c.generation key = c'.generation key
  failing : c.failing = c'.failing

/-- Caches that have the same under a key answer alike about it, and have the same under it
afterwards. -/
theorem SameAt.answer (h : SameAt key c c') {r : CacheRequest} (hr : r.key = key) :
    (answer r c).1 = (answer r c').1 ∧ SameAt key (answer r c).2 (answer r c').2 := by
  cases hfailing : c'.failing with
  | true =>
    have hfailing' : c.failing = true := h.failing.trans hfailing
    cases r <;> simp only [Cache.answer, hfailing, hfailing', if_true] <;> exact ⟨trivial, h⟩
  | false =>
    have hfailing' : c.failing = false := h.failing.trans hfailing
    cases r with
    | find k =>
      obtain rfl : k = key := hr
      rw [find_of_working k hfailing, find_of_working k hfailing', h.text]
      exact ⟨rfl, h⟩
    | generation k =>
      obtain rfl : k = key := hr
      rw [generation_of_working k hfailing, generation_of_working k hfailing', h.generation]
      exact ⟨rfl, h⟩
    | fill k value n =>
      obtain rfl : k = key := hr
      rw [fill_of_working k hfailing, fill_of_working k hfailing', h.generation]
      refine ⟨rfl, ?_⟩
      dsimp only
      split
      · refine ⟨?_, h.generation, h.failing⟩
        rw [find?_put, find?_put, if_pos rfl, if_pos rfl]
      · exact h
    | invalidate k =>
      obtain rfl : k = key := hr
      rw [invalidate_of_working k hfailing, invalidate_of_working k hfailing']
      refine ⟨rfl, ?_, ?_, h.failing⟩
      · rw [find?_drop, find?_drop, if_pos rfl, if_pos rfl]
      · change (c.nextGeneration k).generation k = (c'.nextGeneration k).generation k
        rw [generation_nextGeneration, generation_nextGeneration, h.generation]

/-- What is asked about one key leaves what the cache has under another one. -/
theorem sameAt_answer_of_ne (c : Cache) {r : CacheRequest} (hr : r.key ≠ key) :
    SameAt key (Cache.answer r c).2 c := by
  cases hfailing : c.failing with
  | true => cases r <;> simp only [Cache.answer, hfailing, if_true] <;> exact ⟨rfl, rfl, rfl⟩
  | false =>
    cases r with
    | find k =>
      rw [find_of_working k hfailing]
      exact ⟨rfl, rfl, rfl⟩
    | generation k =>
      rw [generation_of_working k hfailing]
      exact ⟨rfl, rfl, rfl⟩
    | fill k value n =>
      rw [fill_of_working k hfailing]
      dsimp only
      split
      · exact ⟨(find?_put ..).trans (if_neg (Ne.symm hr)), rfl, rfl⟩
      · exact ⟨rfl, rfl, rfl⟩
    | invalidate k =>
      rw [invalidate_of_working k hfailing]
      refine ⟨(find?_drop ..).trans (if_neg (Ne.symm hr)), ?_, rfl⟩
      exact (generation_nextGeneration c k key).trans (if_neg (Ne.symm hr))

end Cache

/-! ### Steady surroundings -/

/-- A gate that decides by promotion and code alone, and a directory that does not change. -/
structure Steady where
  refuses : Uuid → String → Bool
  name : Uuid → Except Failure String

namespace Steady

/-- The answer to a question where the gate and the directory are steady. -/
def answer (w : Steady) (q : Ask) (e : Environment) : q.Answer × Environment :=
  match q with
  | .store (.activate id) =>
    let (r, store, _) := e.store.activate (fun id code g => (w.refuses id code, g)) id ()
    (r, { e with store })
  | .companyName company => (w.name company, e)
  | .mint => e.answer .mint
  | .store r => e.answer (.store r)
  | .cache r => e.answer (.cache r)

def perform {α : Type} (w : Steady) (e : Environment) (d : Action α) : α × Environment :=
  d.run (fun q e => w.answer q e) e

end Steady

namespace Environment

structure SameAt (x : Uuid) (e e' : Environment) : Prop where
  found : e.store.find? x = e'.store.find? x
  cached : e.cache.SameAt (detailKey x) e'.cache

namespace SameAt

variable {x : Uuid} {e e' e'' : Environment}

theorem refl (x : Uuid) (e : Environment) : SameAt x e e := ⟨rfl, rfl, rfl, rfl⟩

theorem trans (h : SameAt x e e') (h' : SameAt x e' e'') : SameAt x e e'' :=
  ⟨h.found.trans h'.found, h.cached.text.trans h'.cached.text,
    h.cached.generation.trans h'.cached.generation, h.cached.failing.trans h'.cached.failing⟩

end SameAt

theorem answerCache_eq (r : CacheRequest) (e : Environment) :
    (e.answerCache r).1 = (Cache.answer r e.cache).1 ∧
      (e.answerCache r).2.cache = (Cache.answer r e.cache).2 ∧
      (e.answerCache r).2.store = e.store := by
  cases r with
  | find key | fill key value n | invalidate key => exact ⟨rfl, rfl, rfl⟩
  | generation key =>
    refine ⟨rfl, ?_, rfl⟩
    simp only [answerCache, Cache.answer]
    split <;> rfl

end Environment

namespace Steady

open Environment (SameAt)

variable {w : Steady} {x y : Uuid} {e e' : Environment}

/-- A question about a promotion has the same answer, and changes the promotion in the same way,
wherever the surroundings have the same of it. -/
theorem answer_sameAt {q : Ask} (hq : q.About x) (h : SameAt x e e') :
    (w.answer q e).1 = (w.answer q e').1 ∧ SameAt x (w.answer q e).2 (w.answer q e').2 ∧
      Store.SameChange x e.store (w.answer q e).2.store e'.store (w.answer q e').2.store := by
  match q with
  | .companyName company => exact ⟨rfl, h, .refl h.found⟩
  | .store (.find id) =>
    obtain rfl : id = x := hq
    exact ⟨congrArg Except.ok h.found, h, .refl h.found⟩
  | .store (.update id company content) =>
    obtain rfl : id = x := hq
    obtain ⟨hresult, hchange⟩ := Store.update_sameChange h.found company content
    exact ⟨hresult, ⟨hchange.found, h.cached⟩, hchange⟩
  | .store (.delete id company) =>
    obtain rfl : id = x := hq
    obtain ⟨hresult, hchange⟩ := Store.delete_sameChange h.found company
    exact ⟨hresult, ⟨hchange.found, h.cached⟩, hchange⟩
  | .store (.activate id) =>
    obtain rfl : id = x := hq
    obtain ⟨hresult, hchange⟩ := Store.activate_sameChange h.found w.refuses
    exact ⟨hresult, ⟨hchange.found, h.cached⟩, hchange⟩
  | .cache r =>
    obtain ⟨hresult, hcached⟩ := h.cached.answer hq
    obtain ⟨hanswer, hcache, hstore⟩ := e.answerCache_eq r
    obtain ⟨hanswer', hcache', hstore'⟩ := e'.answerCache_eq r
    have hfound : (e.answerCache r).2.store.find? x = (e'.answerCache r).2.store.find? x := by
      rw [hstore, hstore', h.found]
    have hchange : Store.SameChange x e.store (e.answerCache r).2.store e'.store
        (e'.answerCache r).2.store := by
      rw [hstore, hstore']
      exact .refl h.found
    rw [← hcache, ← hcache'] at hcached
    exact ⟨hanswer.trans (hresult.trans hanswer'.symm), ⟨hfound, hcached⟩, hchange⟩
  | .mint | .store (.create _ _ _ _) | .store (.list _ _ _) | .store (.count _) => exact hq.elim

/-- A question about one promotion leaves what the surroundings have of another one. -/
theorem sameAt_answer_of_ne {q : Ask} (hq : q.About x) (hne : y ≠ x) (e : Environment) :
    SameAt y (w.answer q e).2 e := by
  have hcached : e.cache.SameAt (detailKey y) e.cache := ⟨rfl, rfl, rfl⟩
  match q with
  | .companyName _ | .store (.find _) => exact ⟨rfl, hcached⟩
  | .store (.update id company content) =>
    obtain rfl : id = x := hq
    exact ⟨Store.find?_update_of_ne e.store content hne, hcached⟩
  | .store (.delete id company) =>
    obtain rfl : id = x := hq
    exact ⟨Store.find?_delete_of_ne e.store hne, hcached⟩
  | .store (.activate id) =>
    obtain rfl : id = x := hq
    have hfound :=
      Store.find?_activate_of_ne e.store (fun id code g => (w.refuses id code, g)) () hne
    exact ⟨hfound, hcached⟩
  | .cache r =>
    have hkey : r.key ≠ detailKey y := fun heq => hne (detailKey_injective (heq.symm.trans hq))
    obtain ⟨-, hcache, hstore⟩ := e.answerCache_eq r
    have hother := e.cache.sameAt_answer_of_ne hkey
    rw [← hcache] at hother
    exact ⟨congrArg (Store.find? · y) hstore, hother⟩
  | .mint | .store (.create _ _ _ _) | .store (.list _ _ _) | .store (.count _) => exact hq.elim

/-! ### Operations on one promotion -/

theorem perform_ask {α : Type} (w : Steady) (e : Environment) (q : Ask)
    (next : q.Answer → Action α) :
    w.perform e (.ask q next) = w.perform (w.answer q e).2 (next (w.answer q e).1) := rfl

/-- A dialogue about a promotion ends alike wherever that promotion is the same, and makes the same
change to it. -/
theorem perform_sameAt {α : Type} {d : Action α} (hd : d.Asks (Ask.About x)) (h : SameAt x e e') :
    (w.perform e d).1 = (w.perform e' d).1 ∧
      Store.SameChange x e.store (w.perform e d).2.store e'.store (w.perform e' d).2.store := by
  induction d generalizing e e' with
  | done a => exact ⟨rfl, .refl h.found⟩
  | ask q next ih =>
    obtain ⟨hanswer, hsame, hchange⟩ := answer_sameAt (w := w) hd.1 h
    rw [perform_ask, perform_ask, ← hanswer]
    obtain ⟨hresult, hrest⟩ := ih _ (hd.2 _) hsame
    exact ⟨hresult, hchange.trans hrest⟩

/-- A dialogue about a promotion leaves every other one as it is. -/
theorem sameAt_perform_of_ne {α : Type} {d : Action α} (hd : d.Asks (Ask.About x)) (hne : y ≠ x)
    (e : Environment) : SameAt y (w.perform e d).2 e := by
  induction d generalizing e with
  | done a => exact .refl y e
  | ask q next ih => exact (ih _ (hd.2 _) _).trans (sameAt_answer_of_ne hd.1 hne e)

/-! ### Replacing content and activating -/

theorem perform_settle {α : Type} (w : Steady) (e : Environment) (id : Uuid)
    (a : Except Failure α) : (w.perform e (Service.settle id a)).1 = a ∧
      (w.perform e (Service.settle id a)).2.store = e.store := by
  cases a <;> exact ⟨rfl, rfl⟩

theorem perform_update (w : Steady) (e : Environment) (id company : Uuid) {r : UpdateRequest}
    {content : Content} (hchanges : r.changes = .ok content) :
    (w.perform e (Service.update id company r)).1 = (e.store.update id company content).1 ∧
      (w.perform e (Service.update id company r)).2.store =
        (e.store.update id company content).2 := by
  have hupdate : Service.update id company r =
      .ask (.store (.update id company content)) (Service.settle id) := by
    rw [Service.update, hchanges]
    rfl
  rw [hupdate, perform_ask]
  exact w.perform_settle _ id _

theorem perform_activate (w : Steady) (e : Environment) (id : Uuid) :
    let gate (id : Uuid) (code : String) (g : Unit) := (w.refuses id code, g)
    (w.perform e (Service.activate id)).1 = (e.store.activate gate id ()).1 ∧
      (w.perform e (Service.activate id)).2.store = (e.store.activate gate id ()).2.1 := by
  have hactivate : Service.activate id = .ask (.store (.activate id)) (Service.settle id) := rfl
  rw [hactivate, perform_ask]
  exact w.perform_settle _ id _

end Steady

/-! ### Either order -/

/-- Two operations may come in either order: each comes to the same result, and both leave the same
store behind. -/
structure Commute (perform : (o : Operation) → Environment → o.Result × Environment)
    (a b : Operation) (e : Environment) : Prop where
  second : (perform b (perform a e).2).1 = (perform b e).1
  first : (perform a (perform b e).2).1 = (perform a e).1
  store : (perform b (perform a e).2).2.store = (perform a (perform b e).2).2.store

end Memory

/-- A gate that has come to the end of its script decides by the code alone. -/
theorem ScriptedGate.decide_of_ended {g : ScriptedGate} (h : g.script = []) (id : Uuid)
    (code : String) : g.decide id code = (g.refusesAll || g.refusedCodes.contains code,
      { g with asked := (id, code) :: g.asked }) := by
  simp only [ScriptedGate.decide, h]

/-- Operations on different promotions, or a change to one and an activation of it. -/
inductive Operation.Independent : Operation → Operation → Prop
  | apart {a b : Operation} {x y : Uuid} (ha : a.target? = some x) (hb : b.target? = some y)
      (hne : x ≠ y) : Independent a b
  | changed (id company : Uuid) (r : UpdateRequest) :
    Independent (update id company r) (activate id)

namespace Memory

namespace Steady

variable {a b : Operation}

/-- Neither operation changes what the other one sees. -/
theorem commute_apart (w : Steady) {x y : Uuid} (ha : a.target? = some x) (hb : b.target? = some y)
    (hne : x ≠ y) (e : Environment) : Commute (fun o e => w.perform e o.action) a b e := by
  have hasks := Operation.action_asks_about ha
  have hasks' := Operation.action_asks_about hb
  obtain ⟨hfirst, hchange⟩ :=
    perform_sameAt hasks (sameAt_perform_of_ne (w := w) hasks' hne e)
  obtain ⟨hsecond, hchange'⟩ :=
    perform_sameAt hasks' (sameAt_perform_of_ne (w := w) hasks (Ne.symm hne) e)
  exact ⟨hsecond, hfirst, Store.SameChange.comm hne hchange hchange'⟩

/-- A change and an activation of one promotion touch different parts of it. -/
theorem commute_changed (w : Steady) (id company : Uuid) (r : UpdateRequest) (e : Environment) :
    Commute (fun o e => w.perform e o.action) (.update id company r) (.activate id) e := by
  cases hchanges : r.changes with
  | error v =>
    -- A change that is refused asks nothing.
    have hrefused : Service.update id company r = .done (.error (.ofViolation v)) := by
      rw [Service.update, hchanges]
      rfl
    refine ⟨?_, ?_, ?_⟩ <;> simp only [Operation.action, hrefused] <;> rfl
  | ok content =>
    obtain ⟨hupdated, hcontent⟩ := w.perform_update e id company hchanges
    obtain ⟨hactivated, hcodes⟩ := w.perform_activate e id
    obtain ⟨hupdated', hcontent'⟩ :=
      w.perform_update (w.perform e (Service.activate id)).2 id company hchanges
    obtain ⟨hactivated', hcodes'⟩ :=
      w.perform_activate (w.perform e (Service.update id company r)).2 id
    obtain ⟨hsecond, hfirst, hstore⟩ := e.store.update_activate_comm
      (fun id code g => (w.refuses id code, g)) id company content
    simp only [hcodes, hcontent] at hupdated' hcontent' hactivated' hcodes'
    exact ⟨hactivated'.trans (hfirst.trans hactivated.symm),
      hupdated'.trans (hsecond.trans hupdated.symm),
      hcodes'.trans (hstore.symm.trans hcontent'.symm)⟩

/-- Independent operations can come in either order where gate and directory are steady. -/
theorem commute (w : Steady) (h : a.Independent b) (e : Environment) :
    Commute (fun o e => w.perform e o.action) a b e := by
  cases h with
  | apart ha hb hne => exact w.commute_apart ha hb hne e
  | changed id company r => exact w.commute_changed id company r e

end Steady

/-! ### Surroundings whose script has ended -/

/-- An activation does not depend on the gate but for its decision on the code. -/
theorem Store.activate_of_decides {γ : Type} (s : Store) (gate : Uuid → String → γ → Bool × γ)
    (g : γ) {refuses : Uuid → String → Bool} (h : ∀ id code, (gate id code g).1 = refuses id code)
    (x : Uuid) :
    let steady (id : Uuid) (code : String) (g : Unit) := (refuses id code, g)
    (s.activate gate x g).1 = (s.activate steady x ()).1 ∧
      (s.activate gate x g).2.1 = (s.activate steady x ()).2.1 ∧
      ((s.activate gate x g).2.2 = g ∨ ∃ code, (s.activate gate x g).2.2 = (gate x code g).2) := by
  intro steady
  rw [activate, activate]
  cases s.find? x with
  | none => exact ⟨rfl, rfl, Or.inl rfl⟩
  | some p =>
    dsimp only
    cases nextCode? p.codes with
    | none => exact ⟨rfl, rfl, Or.inl rfl⟩
    | some code =>
      simp only [h, steady]
      split
      · exact ⟨rfl, rfl, Or.inr ⟨code, rfl⟩⟩
      · exact ⟨rfl, rfl, Or.inr ⟨code, rfl⟩⟩

namespace Environment

variable {w : Steady} {x : Uuid} {e e' : Environment}

/-- Surroundings whose gate has come to the end of its script beside steady ones that have the same
in store and cache. -/
structure Follows (w : Steady) (e e' : Environment) : Prop where
  script : e.gate.script = []
  refuses : ∀ id code, (e.gate.refusesAll || e.gate.refusedCodes.contains code) = w.refuses id code
  name : ∀ company, e.directory.name company = w.name company
  store : e.store = e'.store
  cache : e.cache = e'.cache

def steady (e : Environment) : Steady where
  refuses _ code := e.gate.refusesAll || e.gate.refusedCodes.contains code
  name := e.directory.name

/-- Behind the end of its script a gate decides by its rule alone. -/
theorem follows_steady (h : e.gate.script = []) : Follows e.steady e e :=
  ⟨h, fun _ _ => rfl, fun _ => rfl, rfl, rfl⟩

namespace Follows

theorem answer {q : Ask} (hq : q.About x) (h : Follows w e e') :
    (e.answer q).1 = (w.answer q e').1 ∧ Follows w (e.answer q).2 (w.answer q e').2 := by
  obtain ⟨hscript, hrefuses, hname, hstore, hcache⟩ := h
  match q with
  | .companyName company => exact ⟨hname company, hscript, hrefuses, hname, hstore, hcache⟩
  | .store (.find id) =>
    exact ⟨congrArg (fun s : Store => Except.ok (s.find? id)) hstore, hscript, hrefuses, hname,
      hstore, hcache⟩
  | .store (.update id company content) =>
    exact ⟨congrArg (fun s : Store => (s.update id company content).1) hstore, hscript, hrefuses,
      hname, congrArg (fun s : Store => (s.update id company content).2) hstore, hcache⟩
  | .store (.delete id company) =>
    exact ⟨congrArg (fun s : Store => (s.delete id company).1) hstore, hscript, hrefuses, hname,
      congrArg (fun s : Store => (s.delete id company).2) hstore, hcache⟩
  | .store (.activate id) =>
    have hdecides (x : Uuid) (code : String) : (e.gate.decide x code).1 = w.refuses x code := by
      rw [← hrefuses x code]
      exact congrArg (·.1) (ScriptedGate.decide_of_ended hscript x code)
    obtain ⟨hresult, hleft, hgate⟩ := e.store.activate_of_decides
      (fun id code g => g.decide id code) e.gate hdecides id
    have hafter : ∃ asked, (e.answer (.store (.activate id))).2.gate = { e.gate with asked } := by
      rcases hgate with hsame | ⟨code, hasked⟩
      · exact ⟨e.gate.asked, hsame⟩
      · exact ⟨_, hasked.trans (congrArg (·.2) (ScriptedGate.decide_of_ended hscript id code))⟩
    obtain ⟨asked, hafter⟩ := hafter
    have hsame := congrArg (·.activate (fun id code g => (w.refuses id code, g)) id ()) hstore
    refine ⟨hresult.trans (congrArg (·.1) hsame), ?_, ?_, hname,
      hleft.trans (congrArg (·.2.1) hsame), hcache⟩
    · rw [hafter]
      exact hscript
    · rw [hafter]
      exact hrefuses
  | .cache r =>
    obtain ⟨hanswer, hcache', hstore'⟩ := e.answerCache_eq r
    obtain ⟨hanswer', hcache'', hstore''⟩ := e'.answerCache_eq r
    have hkept : (e.answerCache r).2.gate = e.gate ∧
        (e.answerCache r).2.directory = e.directory := by
      cases r <;> exact ⟨rfl, rfl⟩
    rw [← hcache] at hanswer' hcache''
    refine ⟨hanswer.trans hanswer'.symm, ?_, ?_, ?_, hstore'.trans (hstore.trans hstore''.symm),
      hcache'.trans hcache''.symm⟩
    · exact hkept.1.symm ▸ hscript
    · exact hkept.1.symm ▸ hrefuses
    · exact hkept.2.symm ▸ hname
  | .mint | .store (.create _ _ _ _) | .store (.list _ _ _) | .store (.count _) => exact hq.elim

/-- A dialogue about a promotion goes in surroundings as it does in the steady ones that they
follow. -/
theorem perform {α : Type} {d : Action α} (hd : d.Asks (Ask.About x)) (h : Follows w e e') :
    (e.perform d).1 = (w.perform e' d).1 ∧ Follows w (e.perform d).2 (w.perform e' d).2 := by
  induction d generalizing e e' with
  | done a => exact ⟨rfl, h⟩
  | ask q next ih =>
    obtain ⟨hanswer, hafter⟩ := h.answer hd.1
    rw [perform_ask, Steady.perform_ask, ← hanswer]
    exact ih _ (hd.2 _) hafter

end Follows

end Environment

/-- Independent operations may come in either order. In whatever state store and cache are, whether
the cache works or fails, with any gate that decides by promotion and code alone and any directory
that does not change: two operations on different promotions, or a change to a promotion and an
activation of it, come to the same results in both orders, be they successes or failures, and leave
the same store behind. So they do in surroundings whose gate has come to the end of its script. -/
theorem independent_operations_commute {a b : Operation} (h : a.Independent b) (e : Environment) :
    (∀ w : Steady, Commute (fun o e => w.perform e o.action) a b e) ∧
      (e.gate.script = [] → Commute (fun o e => e.perform o.action) a b e) := by
  refine ⟨fun w => w.commute h e, fun hscript => ?_⟩
  have hsteady := e.steady.commute h e
  obtain ⟨x, hx⟩ : ∃ x, a.target? = some x := by
    cases h with
    | apart ha _ _ => exact ⟨_, ha⟩
    | changed id _ _ => exact ⟨id, rfl⟩
  obtain ⟨y, hy⟩ : ∃ y, b.target? = some y := by
    cases h with
    | apart _ hb _ => exact ⟨_, hb⟩
    | changed id _ _ => exact ⟨id, rfl⟩
  have hasks := Operation.action_asks_about hx
  have hasks' := Operation.action_asks_about hy
  have hfollows := Environment.follows_steady hscript
  obtain ⟨hfirst, hafter⟩ := hfollows.perform hasks
  obtain ⟨hsecond, hafter'⟩ := hfollows.perform hasks'
  obtain ⟨hthen, hend⟩ := hafter.perform hasks'
  obtain ⟨hthen', hend'⟩ := hafter'.perform hasks
  exact ⟨hthen.trans (hsteady.second.trans hsecond.symm),
    hthen'.trans (hsteady.first.trans hfirst.symm),
    hend.store.trans (hsteady.store.trans hend'.store.symm)⟩

/-- A bakery with two promotions, one of which has a single activation left, and a gate that refuses
one of the codes. -/
def busyBakery : Environment where
  store := ⟨[⟨Supply.idAt 1, Supply.idAt 7, .common, ⟨"Dez por cento", none, {}, none, none⟩,
      Supply.timeAt 1, [⟨"WELCOME", 1, 2⟩]⟩,
    ⟨Supply.idAt 2, Supply.idAt 7, .unique, ⟨"Vinte por cento", none, {}, none, none⟩,
      Supply.timeAt 2, [⟨"ONE", 0, 1⟩]⟩]⟩
  directory := Environment.bakery.directory
  gate := { refusedCodes := ["ONE"] }

/-- The bakery deletes or changes one promotion while the other one is activated, in either
order. -/
theorem busy_bakery_in_either_order :
    Commute (fun o e => e.perform o.action) (.delete (Supply.idAt 1) (Supply.idAt 7))
        (.activate (Supply.idAt 2)) busyBakery ∧
      Commute (fun o e => e.perform o.action)
        (.update (Supply.idAt 1) (Supply.idAt 7)
          ⟨⟨"Só hoje: metade", none, {}, none, none⟩, none, none, none, none⟩)
        (.activate (Supply.idAt 1)) busyBakery ∧
      (busyBakery.perform (Service.activate (Supply.idAt 1))).1 = .ok "WELCOME" ∧
      (busyBakery.perform (Service.activate (Supply.idAt 2))).1 = .error .rejectedByGate :=
  ⟨(independent_operations_commute (.apart rfl rfl (by decide +kernel)) busyBakery).2 rfl,
    (independent_operations_commute (.changed ..) busyBakery).2 rfl, rfl, rfl⟩

end Memory

end Promotions
