import Promotions.Proofs.Solo

/-!
What is carried out in the environment, as schedules of calls. Operations one after another are
calls none of which begins before the one before it has returned; activations side by side are calls
that take their steps in rounds. So whatever holds after every schedule holds of both.
-/

namespace Promotions.Memory

/-! ### Operations one after another -/

def Call.returned? (c : Call) : Option ((o : Operation) × o.Result) :=
  match c.stage with
  | .asking (.done a) => some ⟨c.operation, a⟩
  | _ => none

/-- Operations carried out one after another in the environment. -/
def Environment.serve (e : Environment) :
    List Operation → List ((o : Operation) × o.Result) × Environment
  | [] => ([], e)
  | o :: os =>
    let (a, e) := e.perform o.action
    let (as, e) := e.serve os
    (⟨o, a⟩ :: as, e)

namespace System

theorem run_cons {s s' : System} {m : Move} {ms : List Move} (h : s.next m = some s') :
    s.run (m :: ms) = s'.run ms := by
  rw [run, List.foldlM_cons, h]
  rfl

theorem run_append {s : System} {ms ns : List Move} {s' : System} (h : s.run ms = some s') :
    s.run (ms ++ ns) = s'.run ns := by
  rw [run, List.foldlM_append]
  rw [run] at h
  rw [h]
  rfl

theorem next_advance {s : System} {caller : Nat} {ch : Choice} {c : Call} {shared : Shared}
    {stage : Stage c.operation.Result} {note : Option Note} (hc : s.calls[caller]? = some c)
    (hstep : c.stage.step ch caller s.shared = some (stage, shared, note)) :
    s.next (.advance caller ch) =
      some ⟨shared, s.calls.set caller (c.advance stage note), note.toList ++ s.history⟩ := by
  simp only [next, hc, hstep, Option.bind_eq_bind, Option.bind_some]

/-- The steps that a call takes with nobody coming in between are a schedule. -/
theorem run_of_alone {caller : Nat} {o : Operation} {x y : Stage o.Result × Shared}
    (h : Stage.Alone caller x y) :
    ∀ (s : System) (captured : List Nat) (counted : Option Nat),
      s.calls[caller]? = some ⟨o, x.1, captured, counted⟩ → s.shared = x.2 →
        ∃ ms s' captured counted, s.run ms = some s' ∧ s'.shared = y.2 ∧
          s'.calls = s.calls.set caller ⟨o, y.1, captured, counted⟩ := by
  induction h using Relation.ReflTransGen.head_induction_on with
  | refl =>
    intro s captured counted hc hshared
    refine ⟨[], s, captured, counted, rfl, hshared, ?_⟩
    obtain ⟨hlt, hc⟩ := List.getElem?_eq_some_iff.mp hc
    rw [← hc, List.set_getElem_self]
  | @head x x' hmove _ ih =>
    intro s captured counted hc hshared
    obtain ⟨ch, note, hstep⟩ := hmove
    let c : Call := ⟨o, x.1, captured, counted⟩
    let s₁ : System :=
      ⟨x'.2, s.calls.set caller (c.advance x'.1 note), note.toList ++ s.history⟩
    have hnext : s.next (.advance caller ch) = some s₁ := next_advance hc (hshared ▸ hstep)
    have hlt := (List.getElem?_eq_some_iff.mp hc).1
    have hc₁ : s₁.calls[caller]? = some (c.advance x'.1 note) := List.getElem?_set_self hlt
    obtain ⟨ms, s', captured', counted', hrun, hshared', hcalls⟩ := ih s₁ _ _ hc₁ rfl
    refine ⟨.advance caller ch :: ms, s', captured', counted', ?_, hshared', ?_⟩
    · exact (run_cons hnext).trans hrun
    · rw [hcalls, List.set_set]

/-- A call that runs alone returns what its operation returns in the environment, and leaves the
same behind. -/
theorem exists_run_of_operation {s : System} {e : Environment} (h : s.shared.Mirrors e)
    (o : Operation) :
    ∃ ms s' captured counted, s.run ms = some s' ∧
      s'.shared.Mirrors (e.perform o.action).2 ∧
      s'.calls = s.calls ++ [⟨o, .asking (.done (e.perform o.action).1), captured, counted⟩] := by
  obtain ⟨shared, hmirrors, halone⟩ := h.perform s.calls.length o.action
  have hc : (s.calls ++ [.begin o])[s.calls.length]? = some (.begin o) := by simp
  obtain ⟨ms, s', captured, counted, hrun, hshared, hcalls⟩ :=
    run_of_alone halone { s with calls := s.calls ++ [.begin o] } _ _ hc rfl
  refine ⟨.begin o :: ms, s', captured, counted, hrun, hshared ▸ hmirrors, ?_⟩
  rw [hcalls, List.set_append_right _ _ (Nat.le_refl _), Nat.sub_self]
  rfl

/-- Calls that come one after another return what their operations return in the environment. -/
theorem exists_run_of_operations {s : System} {e : Environment} (h : s.shared.Mirrors e)
    (os : List Operation) :
    ∃ ms s', s.run ms = some s' ∧ s'.shared.Mirrors (e.serve os).2 ∧
      s'.calls.map Call.returned? = s.calls.map Call.returned? ++ (e.serve os).1.map some := by
  induction os generalizing s e with
  | nil => exact ⟨[], s, rfl, h, (List.append_nil _).symm⟩
  | cons o os ih =>
    obtain ⟨ms, s₁, captured, counted, hrun, hmirrors, hcalls⟩ := exists_run_of_operation h o
    obtain ⟨ns, s₂, hrest, hmirrors', hreturned⟩ := ih hmirrors
    refine ⟨ms ++ ns, s₂, (run_append hrun).trans hrest, hmirrors', ?_⟩
    rw [hreturned, hcalls, List.map_append, List.append_assoc]
    rfl

theorem mirrors_start {e : Environment} (hdistinct : (e.store.promotions.map (·.id)).Nodup) :
    ({ world := World.ofStore e.store, cache := e.cache,
       refusesCodes := e.refusesCodes } : Shared).Mirrors e := by
  have hids : (World.ofStore e.store).pools.map (·.promotion.id) =
      e.store.promotions.map (·.id) := by
    conv_rhs => rw [← World.toStore_ofStore e.store, World.toStore_eq, List.map_map]
    rfl
  have hpools : (World.ofStore e.store).Distinct := by
    rw [World.Distinct, hids]
    exact hdistinct
  have hfree : (World.ofStore e.store).Free := World.holder?_ofStore e.store
  exact ⟨⟨hfree, hpools, World.layout_ofStore e.store⟩, World.toStore_ofStore e.store, rfl, rfl⟩

/-- Operations carried out one after another in the environment are calls of the system in some
order of events: they return the same and leave the same store and cache behind. -/
theorem serial_calls_are_calls {e : Environment}
    (hdistinct : (e.store.promotions.map (·.id)).Nodup) (os : List Operation) :
    ∃ ms s, (start e.store e.cache).run ms = some s ∧
      s.calls.map Call.returned? = (e.serve os).1.map some ∧
      s.store = (e.serve os).2.store ∧ s.shared.cache = (e.serve os).2.cache := by
  obtain ⟨ms, s, hrun, hmirrors, hreturned⟩ := exists_run_of_operations
    (s := ⟨⟨World.ofStore e.store, e.cache, e.refusesCodes⟩, [], []⟩) (mirrors_start hdistinct) os
  exact ⟨.failCodes e.refusesCodes :: ms, s, (run_cons rfl).trans hrun, hreturned,
    hmirrors.store, hmirrors.cache⟩

end System

/-! ### Activations side by side -/

/-- The step that an activation takes with a gate of any kind is one for some decision of it. -/
theorem Phase.exists_step_of_step {γ : Type} {refuse : Uuid → String → γ → Bool × γ} {caller : Nat}
    {id : Uuid} {w w' : World} {g g' : γ} {p p' : Phase}
    (h : p.step refuse caller id w g = some (p', w', g')) :
    ∃ refuses, p.step (fun _ _ g => (refuses, g)) caller id w () = some (p', w', ()) := by
  cases p with
  | deciding r =>
    refine ⟨(refuse id (w.codeAt r) g).1, ?_⟩
    simp only [step] at h ⊢
    split at h <;> simp_all
  | arriving | probed r left all | obtained r left =>
    refine ⟨false, ?_⟩
    simp only [step] at h ⊢
    split at h <;> simp_all
  | probing left all | waiting left =>
    refine ⟨false, ?_⟩
    rcases left with _ | ⟨r, left⟩ <;> simp only [step] at h ⊢
    · simp_all
    · split at h <;> simp_all
  | pausing r | releasing r a =>
    refine ⟨false, ?_⟩
    simp only [step] at h ⊢
    simp_all
  | finished a => cases h

def Call.phase? (c : Call) : Option (Uuid × Phase) :=
  match c.stage with
  | .activating id p _ => some (id, p)
  | _ => none

namespace System

variable {s : System} {id : Uuid}

/-- One more activation that has come to the store. -/
theorem exists_run_of_arrival (s : System) (id : Uuid) :
    ∃ ms s', s.run ms = some s' ∧ s'.shared = s.shared ∧
      s'.calls.map Call.phase? = s.calls.map Call.phase? ++ [some (id, .arriving)] := by
  let s₁ : System := { s with calls := s.calls ++ [.begin (.activate id)] }
  have hc : s₁.calls[s.calls.length]? = some (.begin (.activate id)) := by simp [s₁]
  have hstep : (Call.begin (.activate id)).stage.step {} s.calls.length s₁.shared =
    some (.activating id .arriving fun a => Service.settle id a, s.shared, none) := rfl
  have hrun : s.run [.begin (.activate id), .advance s.calls.length {}] = some _ :=
    (run_cons rfl).trans (run_cons (next_advance hc hstep))
  refine ⟨_, _, hrun, rfl, ?_⟩
  simp only [s₁, List.set_append_right _ _ (Nat.le_refl _), Nat.sub_self, List.map_append]
  rfl

theorem exists_next_of_phase {caller : Nat} {p p' : Phase} {w : World} {refuses : Bool}
    (hp : (s.calls.map Call.phase?)[caller]? = some (some (id, p)))
    (hstep : p.step (fun _ _ g => (refuses, g)) caller id s.shared.world () = some (p', w, ())) :
    ∃ s', s.next (.advance caller { refuses }) = some s' ∧
      s'.shared = { s.shared with world := w } ∧
      s'.calls.map Call.phase? = (s.calls.map Call.phase?).set caller (some (id, p')) := by
  rw [List.getElem?_map] at hp
  obtain ⟨c, hc, hphase⟩ := Option.map_eq_some_iff.mp hp
  obtain ⟨o, stage, captured, counted⟩ := c
  have hresult : p.result? = none := by
    cases p with
    | finished a => cases hstep
    | arriving | probing _ _ | probed _ _ _ | waiting _ | obtained _ _ | pausing _ | deciding _
    | releasing _ _ => rfl
  cases stage with
  | activating id' p'' next =>
    obtain ⟨rfl, rfl⟩ : id' = id ∧ p'' = p := by simpa [Call.phase?] using hphase
    have hadvanced : (Stage.activating id' p'' next).step { refuses } caller s.shared =
        some (.activating id' p' next, { s.shared with world := w }, p''.note? id' p') := by
      simp only [Stage.step, hresult, hstep, Option.map_some]
    refine ⟨_, next_advance hc hadvanced, rfl, ?_⟩
    rw [List.map_set]
    rfl
  | asking d | copying c' next | abandoned => simp [Call.phase?] at hphase

/-- One step of every activation that can take one, in turn, is a schedule. -/
theorem exists_run_of_round {γ : Type} (refuse : Uuid → String → γ → Bool × γ) (ps : List Phase)
    (g : γ) :
    ∀ (s : System) (before : List (Option (Uuid × Phase))),
      s.calls.map Call.phase? = before ++ ps.map (fun p => some (id, p)) →
        ∃ ms s', s.run ms = some s' ∧
          s'.shared = { s.shared with
            world := (Phase.round refuse id before.length ps s.shared.world g).2.1 } ∧
          s'.calls.map Call.phase? = before ++
            (Phase.round refuse id before.length ps s.shared.world g).1.map
              fun p => some (id, p) := by
  induction ps generalizing g with
  | nil =>
    intro s before hphases
    exact ⟨[], s, rfl, rfl, hphases⟩
  | cons p ps ih =>
    intro s before hphases
    have hp : (s.calls.map Call.phase?)[before.length]? = some (some (id, p)) := by
      rw [hphases]
      simp
    cases hstep : p.step refuse before.length id s.shared.world g with
    | none =>
      obtain ⟨ms, s', hrun, hshared, hphases'⟩ :=
        ih g s (before ++ [some (id, p)]) (by simpa using hphases)
      rw [List.length_append, List.length_singleton] at hshared hphases'
      refine ⟨ms, s', hrun, ?_, ?_⟩
      · simpa only [Phase.round, hstep, Option.getD_none] using hshared
      · simpa only [Phase.round, hstep, Option.getD_none, List.append_assoc, List.singleton_append,
          List.map_cons] using hphases'
    | some r =>
      obtain ⟨p', w, g'⟩ := r
      obtain ⟨refuses, hdecided⟩ := Phase.exists_step_of_step hstep
      obtain ⟨s₁, hnext, hshared₁, hphases₁⟩ := exists_next_of_phase hp hdecided
      rw [hphases, List.set_append_right _ _ (Nat.le_refl _), Nat.sub_self] at hphases₁
      obtain ⟨ms, s', hrun, hshared, hphases'⟩ :=
        ih g' s₁ (before ++ [some (id, p')]) (by simpa using hphases₁)
      rw [List.length_append, List.length_singleton, hshared₁] at hshared hphases'
      refine ⟨.advance before.length { refuses } :: ms, s', (run_cons hnext).trans hrun, ?_, ?_⟩
      · simpa only [Phase.round, hstep, Option.getD_some] using hshared
      · simpa only [Phase.round, hstep, Option.getD_some, List.append_assoc, List.singleton_append,
          List.map_cons] using hphases'

/-- So is a number of rounds. -/
theorem exists_run_of_rounds {γ : Type} (refuse : Uuid → String → γ → Bool × γ) (n : Nat) :
    ∀ (s : System) (ps : List Phase) (g : γ),
      s.calls.map Call.phase? = ps.map (fun p => some (id, p)) →
        ∃ ms s', s.run ms = some s' ∧
          s'.shared = { s.shared with
            world := (Phase.rounds refuse id n ps s.shared.world g).2.1 } ∧
          s'.calls.map Call.phase? =
            (Phase.rounds refuse id n ps s.shared.world g).1.map fun p => some (id, p) := by
  induction n with
  | zero => exact fun s ps g hphases => ⟨[], s, rfl, rfl, hphases⟩
  | succ n ih =>
    intro s ps g hphases
    simp only [Phase.rounds]
    split
    · exact ⟨[], s, rfl, rfl, hphases⟩
    · obtain ⟨ms, s₁, hrun, hshared, hphases₁⟩ := exists_run_of_round refuse ps g s [] hphases
      obtain ⟨ns, s₂, hrest, hshared', hphases'⟩ := ih s₁ _ _ hphases₁
      rw [hshared] at hshared' hphases'
      exact ⟨ms ++ ns, s₂, (run_append hrun).trans hrest, hshared', hphases'⟩

/-- Any number of activations can arrive while nothing else happens. -/
theorem exists_run_of_arrivals (s : System) (id : Uuid) (n : Nat) :
    ∃ ms s', s.run ms = some s' ∧ s'.shared = s.shared ∧
      s'.calls.map Call.phase? =
        s.calls.map Call.phase? ++ (List.replicate n .arriving).map fun p => some (id, p) := by
  induction n generalizing s with
  | zero => exact ⟨[], s, rfl, rfl, by simp⟩
  | succ n ih =>
    obtain ⟨ms, s₁, hrun, hshared, hphases⟩ := exists_run_of_arrival s id
    obtain ⟨ns, s₂, hrest, hshared', hphases'⟩ := ih s₁
    refine ⟨ms ++ ns, s₂, (run_append hrun).trans hrest, hshared'.trans hshared, ?_⟩
    rw [hphases', hphases, List.append_assoc]
    rfl

/-- Activations that the store carries out side by side are calls of the system in some order of
events: they come to the same results and leave the same store behind. -/
theorem calls_together_are_calls {γ : Type} (store : Store) (cache : Cache)
    (refuse : Uuid → String → γ → Bool × γ) (id : Uuid) (callers : Nat) (g : γ) :
    ∃ ms s, (start store cache).run ms = some s ∧
      (s.calls.filterMap fun c => c.phase?.bind fun x => x.2.result?) =
        (store.activateTogether refuse id callers g).1 ∧
      s.store = (store.activateTogether refuse id callers g).2.1 := by
  obtain ⟨ms, s₁, hrun, hshared, hphases⟩ := exists_run_of_arrivals (start store cache) id callers
  obtain ⟨ns, s₂, hrest, hshared', hphases'⟩ := exists_run_of_rounds refuse
    (callers * (4 * (((World.ofStore store).rowsOf? id).getD []).length + 8)) s₁ _ g hphases
  rw [hshared] at hshared' hphases'
  refine ⟨ms ++ ns, s₂, (run_append hrun).trans hrest, ?_, ?_⟩
  · have hresults : (s₂.calls.filterMap fun c => c.phase?.bind fun x => x.2.result?) =
        (s₂.calls.map Call.phase?).filterMap fun phase? => phase?.bind fun x => x.2.result? := by
      rw [List.filterMap_map]
      rfl
    rw [hresults, hphases', List.filterMap_map]
    rfl
  · rw [System.store, hshared']
    rfl

end System

end Promotions.Memory
