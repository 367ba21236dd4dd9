import Promotions.Proofs.Histories

/-!
Serial runs without what has failed. An operation that fails leaves the store as it is, and what it
has left in the cache no later operation can tell from what it would find there otherwise. So it
might as well not have been carried out.
-/

namespace Promotions

open Memory

def Operation.succeeds : (o : Operation) → o.Result → Bool
  | create _ _, r | list _ _ _ _, r | count _ _, r | get _ _, r | update _ _ _, r | delete _ _, r
  | activate _, r => r.isOk

namespace Memory

/-- An operation with what surrounds the service while it is carried out: the companies that are
known, whether codes are taken in, how the gate decides, and what is minted for a new promotion. -/
structure Visit where
  operation : Operation
  directory : Directory := {}
  refusesCodes : Bool := false
  gate : ScriptedGate := {}
  supply : Supply := {}

def Visit.events (v : Visit) : List Event :=
  [.surround v.directory v.refusesCodes v.gate v.supply, .call v.operation []]

def Served.succeeds (t : Served) : Bool := t.operation.succeeds t.result

namespace Environment

def visited (e : Environment) (vs : List Visit) : List Served :=
  e.serial throughCache (vs.flatMap Visit.events)

def successes (e : Environment) (vs : List Visit) : List Visit :=
  ((vs.zip (e.visited vs)).filter fun x => x.2.succeeds).map (·.1)

/-- Whenever a promotion is to be created in a serial run of visits, the identifier that is minted
for it is not one of a stored promotion. -/
def Fresh (e : Environment) (vs : List Visit) : Prop :=
  ∀ before v rest company r, vs = before ++ v :: rest → v.operation = .create company r →
    (e.store.after (e.visited before)).find? v.supply.take.1.1 = none

/-! ### One operation that fails -/

theorem exists_of_not_isOk {ε α : Type} {r : Except ε α} (h : r.isOk = false) :
    ∃ f, r = .error f := by
  cases r with
  | error f => exact ⟨f, rfl⟩
  | ok a => cases h

/-- A creation that fails leaves the store as it was. -/
theorem store_perform_create_of_error {e : Environment} {company : Uuid} {r : CreateRequest}
    {f : Failure} (h : (e.perform (Service.create company r)).1 = .error f) :
    (e.perform (Service.create company r)).2.store = e.store := by
  unfold Service.create at h ⊢
  cases hdraft : r.draft company with
  | error v => rfl
  | ok d =>
    obtain ⟨store, refuses, cache, directory, gate, supply, tally⟩ := e
    rw [hdraft] at h
    cases refuses with
    | true => rfl
    | false => cases h

/-- An operation that fails leaves the store as it is, whatever the cache holds and whichever of its
operations fail. -/
theorem store_throughCache_of_failed {e : Environment} {faults : List Bool} {o : Operation}
    (h : o.succeeds (e.throughCache faults o).1 = false) :
    (e.throughCache faults o).2.store = e.store := by
  cases hreads : o.reads with
  | true => exact store_throughCache_of_reads hreads faults e
  | false =>
    obtain ⟨hresult, hstore⟩ := throughCache_of_writes hreads faults e
    rw [hresult] at h
    rw [hstore]
    cases o with
    | get _ _ | list _ _ _ _ | count _ _ => cases hreads
    | create company r =>
      obtain ⟨f, hf⟩ := exists_of_not_isOk h
      exact store_perform_create_of_error hf
    | update id company r =>
      simp only [Operation.plain] at h ⊢
      cases hchanges : r.changes with
      | error v => rfl
      | ok content =>
        rw [hchanges] at h
        obtain ⟨f, hf⟩ := exists_of_not_isOk h
        exact Store.update_of_error hf
    | delete id company =>
      obtain ⟨f, hf⟩ := exists_of_not_isOk h
      exact Store.delete_of_error hf
    | activate id =>
      let refuse (id : Uuid) (code : String) (g : ScriptedGate) := g.decide id code
      obtain ⟨f, hf⟩ := exists_of_not_isOk h
      have hf : (e.store.activate refuse id e.gate).1 = .error f := hf
      exact Store.activate_of_error hf

/-! ### One visit -/

def surrounded (e : Environment) (v : Visit) : Environment :=
  { e with
    directory := v.directory, refusesCodes := v.refusesCodes, gate := v.gate, supply := v.supply }

def left (e : Environment) (v : Visit) : Environment :=
  ((e.surrounded v).throughCache [] v.operation).2

def visit (e : Environment) (v : Visit) : Served :=
  ⟨v.operation, ((e.surrounded v).throughCache [] v.operation).1, (e.left v).store⟩

variable {e e' : Environment} {v : Visit} {vs : List Visit}

@[simp] theorem visited_cons (e : Environment) (v : Visit) (vs : List Visit) :
    e.visited (v :: vs) = e.visit v :: (e.left v).visited vs := rfl

/-- A visit counts among the successes if its operation succeeds in the environment that the visits
before it have left. -/
theorem successes_cons (e : Environment) (v : Visit) (vs : List Visit) :
    e.successes (v :: vs) =
      if (e.visit v).succeeds then v :: (e.left v).successes vs else (e.left v).successes vs := by
  simp only [successes, visited_cons, List.zip_cons_cons, List.filter_cons]
  split <;> rfl

theorem fresh_nil : e.Fresh [] := by
  intro before v rest company r hsplit
  simp at hsplit

/-- Identifiers are fresh in a run if the first one is, and those after it are in the rest of the
run. -/
theorem fresh_cons : e.Fresh (v :: vs) ↔
    (∀ company r, v.operation = .create company r → e.store.find? v.supply.take.1.1 = none) ∧
      (e.left v).Fresh vs := by
  constructor
  · refine fun h => ⟨fun company r => h [] v vs company r rfl, ?_⟩
    intro before u rest company r hsplit hu
    have hfresh := h (v :: before) u rest company r (by rw [hsplit, List.cons_append]) hu
    rwa [visited_cons, Store.after_cons] at hfresh
  · rintro ⟨hnew, hrest⟩ before u rest company r hsplit hu
    cases before with
    | nil =>
      obtain ⟨rfl, rfl⟩ := List.cons.inj hsplit
      exact hnew company r hu
    | cons w before =>
      obtain ⟨rfl, rfl⟩ := List.cons.inj hsplit
      rw [visited_cons, Store.after_cons]
      exact hrest before u rest company r rfl hu

theorem Coherent.surrounded (h : e.Coherent) (v : Visit) : (e.surrounded v).Coherent :=
  ⟨h.working, h.entries⟩

/-- A visit leaves a coherent cache, if what it mints is new. -/
theorem Coherent.left (h : e.Coherent) (hnew : ∀ company r, v.operation = .create company r →
    e.store.find? v.supply.take.1.1 = none) : (e.left v).Coherent := by
  have hworking : (e.surrounded v).cache.failing = false := h.working
  rw [Environment.left, throughCache_faultless List.not_mem_nil hworking]
  exact (h.surrounded v).perform v.operation hnew

/-- What is served in a visit depends on the store alone, as long as the cache tells the truth. -/
theorem Coherent.visit_congr (h : e.Coherent) (h' : e'.Coherent) (hstore : e'.store = e.store)
    (v : Visit) : e'.visit v = e.visit v := by
  have hbare : (e'.surrounded v).bare = (e.surrounded v).bare := by
    simp only [Environment.surrounded, bare, hstore]
  have hboth {x : Environment} (hx : x.Coherent) (hsame : x.bare = (e.surrounded v).bare) :
      (x.throughCache [] v.operation).1 = ((e.surrounded v).perform v.operation.plain).1 := by
    rw [throughCache_faultless List.not_mem_nil hx.working]
    exact hx.result hsame v.operation
  have hresult := (hboth (h'.surrounded v) hbare).trans (hboth (h.surrounded v) rfl).symm
  have hafter := (after_alike hbare (.call v.operation [])).1.trans
    (after_alike (rfl : (e.surrounded v).bare = _) (.call v.operation [])).1.symm
  have hleft : (e'.left v).store = (e.left v).store := congrArg (·.store) hafter
  simp only [visit, hresult, hleft]

/-! ### Runs of visits -/

/-- What is served without the failures, from a store of the same promotions. The cache may hold
other texts then, since operations that fail may have filled it. -/
theorem Coherent.visited_successes (h : e.Coherent) (h' : e'.Coherent)
    (hstore : e'.store = e.store) (hfresh : e.Fresh vs) :
    e'.visited (e.successes vs) = (e.visited vs).filter Served.succeeds ∧
      e'.store.after (e'.visited (e.successes vs)) = e.store.after (e.visited vs) := by
  induction vs generalizing e e' with
  | nil => exact ⟨rfl, hstore⟩
  | cons v vs ih =>
    have hvisit := h.visit_congr h' hstore v
    obtain ⟨hnew, hrest⟩ := fresh_cons.mp hfresh
    rw [successes_cons, visited_cons, List.filter_cons, Store.after_cons]
    cases hsucceeds : (e.visit v).succeeds with
    | true =>
      have hleft : (e'.left v).store = (e.left v).store := congrArg (·.store) hvisit
      have hnew' : ∀ company r, v.operation = .create company r →
          e'.store.find? v.supply.take.1.1 = none := hstore ▸ hnew
      obtain ⟨hserved, hafter⟩ := ih (h.left hnew) (h'.left hnew') hleft hrest
      rw [if_pos rfl, if_pos rfl, visited_cons, Store.after_cons, hvisit]
      rw [hleft] at hafter
      exact ⟨by rw [hserved], hafter⟩
    | false =>
      have hkept : (e.left v).store = e.store := store_throughCache_of_failed hsucceeds
      exact ih (h.left hnew) h' (hstore.trans hkept.symm) hrest

/-- Operations that fail leave no trace. When those that come to an error, whatever the error, are
left out of a serial run, each of the others has the result that it had and leaves the store that it
left, and the store is the same in the end. Around every operation, companies may be unknown, codes
may be refused and the gate may decide in its own way. Nothing fails in the cache, and it tells the
truth in the beginning, as an empty one does; new promotions are given new identifiers. -/
theorem failures_leave_no_trace (h : e.Coherent) (hfresh : e.Fresh vs) :
    e.visited (e.successes vs) = (e.visited vs).filter Served.succeeds ∧
      e.store.after (e.visited (e.successes vs)) = e.store.after (e.visited vs) :=
  h.visited_successes h rfl hfresh

/-- A day at the bakery. A promotion with one code is created, and another one is not, since no
codes are taken in. Another company reads the promotion and is refused. The gate refuses an
activation and lets the next one pass. The bakery reads the promotion, and no code is left for a
third one. -/
def troubledDay : List Visit :=
  let bakery := Supply.idAt 7
  let known : Directory := ⟨[(bakery, "Padaria")], false⟩
  let request (code : String) : CreateRequest :=
    ⟨"UNIQUE", none, some [code], none, "Dez por cento", none, {}, none, none⟩
  [{ operation := .create bakery (request "ONE") },
    { operation := .create bakery (request "TWO"), refusesCodes := true
      supply := ⟨1, none, none⟩ },
    { operation := .get (Supply.idAt 1) (Supply.idAt 8), directory := known },
    { operation := .activate (Supply.idAt 1), gate := { script := [true] } },
    { operation := .activate (Supply.idAt 1) },
    { operation := .get (Supply.idAt 1) bakery, directory := known },
    { operation := .activate (Supply.idAt 1) }]

/-- On this day four operations fail. Without them the others end in the same way, and the same is
stored in the end. -/
theorem troubled_day_leaves_no_trace :
    (bakery.visited troubledDay).map Served.succeeds =
        [true, false, false, false, true, true, false] ∧
      bakery.visited (bakery.successes troubledDay) =
        (bakery.visited troubledDay).filter Served.succeeds ∧
      bakery.store.after (bakery.visited (bakery.successes troubledDay)) =
        bakery.store.after (bakery.visited troubledDay) := by
  have hempty (key : String) : bakery.cache.find? key = none := rfl
  have hcoherent : bakery.Coherent := by
    refine ⟨rfl, fun id text p hfind => ?_⟩
    rw [hempty] at hfind
    cases hfind
  have hfresh : bakery.Fresh troubledDay := by
    simp only [troubledDay, fresh_cons]
    refine ⟨fun _ _ _ => rfl, fun _ _ _ => ?_, ?_, ?_, ?_, ?_, ?_, ?_⟩
    · decide +kernel
    on_goal 6 => exact fresh_nil
    all_goals
      intro company r h
      cases h
  exact ⟨by decide +kernel, failures_leave_no_trace hcoherent hfresh⟩

end Environment

end Memory

end Promotions
