import Promotions.Proofs.Readers
import Promotions.Proofs.RoundTrip

/-!
The cache against the store. A text in the cache that is not the text of what the store has now is
there only as long as some write to the promotion has not been followed by a successful
invalidation, whatever the order of events and however often the cache fails.
-/

namespace Promotions.Memory

/-! ### Writes that are not settled -/

/-- Some write to a promotion has had no successful invalidation of the promotion after it. The
latest notes come first. -/
def Unsettled (id : Uuid) (history : List Note) : Prop :=
  ∃ later write earlier, history = later ++ write :: earlier ∧ write.Writes id ∧
    .staled (detailKey id) ∉ later

/-- A note makes a promotion unsettled if it tells of a write, and settled if it declares the text
stale. -/
theorem unsettled_cons {id : Uuid} {n : Note} {history : List Note} :
    Unsettled id (n :: history) ↔
      n.Writes id ∨ n ≠ .staled (detailKey id) ∧ Unsettled id history := by
  constructor
  · rintro ⟨later, write, earlier, heq, hwrites, hlater⟩
    cases later with
    | nil =>
      obtain ⟨rfl, rfl⟩ := List.cons.inj heq
      exact Or.inl hwrites
    | cons m later =>
      obtain ⟨rfl, rfl⟩ := List.cons.inj heq
      rw [List.mem_cons, not_or] at hlater
      exact Or.inr ⟨Ne.symm hlater.1, later, write, earlier, rfl, hwrites, hlater.2⟩
  · rintro (hwrites | ⟨hn, later, write, earlier, rfl, hwrites, hlater⟩)
    · exact ⟨[], n, history, rfl, hwrites, List.not_mem_nil⟩
    · refine ⟨n :: later, write, earlier, rfl, hwrites, ?_⟩
      rw [List.mem_cons, not_or]
      exact ⟨Ne.symm hn, hlater⟩

/-! ### The cache in a step -/

namespace CacheTurn

variable {α : Type} {c c' : Cache} {st : Stage α} {note : Option Note}

/-- No turn of the cache goes back to an earlier generation. -/
theorem generation_le (t : CacheTurn c st note c') (key : String) :
    c.generation key ≤ c'.generation key := by
  cases t with
  | rest _ => exact Nat.le_refl _
  | fill _ => exact Nat.le_refl _
  | @invalidate x =>
    have hnext := Cache.generation_nextGeneration c x key
    change c.generation key ≤ (c.nextGeneration x).generation key
    rw [hnext]
    split
    · rename_i hx
      rw [hx]
      exact Nat.le_succ _
    · exact Nat.le_refl _

/-- Whoever declares a text stale begins a new generation, so that readers from before cannot fill
any more. -/
theorem generation_ne (t : CacheTurn c st note c') {key : String}
    (hnote : note = some (.staled key)) : c'.generation key ≠ c.generation key := by
  cases t with
  | rest hno => exact absurd hnote (hno key)
  | fill _ => cases hnote
  | invalidate =>
    cases hnote
    have hnext := Cache.generation_nextGeneration c key key
    change (c.nextGeneration key).generation key ≠ c.generation key
    rw [hnext, if_pos rfl]
    exact Nat.succ_ne_self _

/-- A text that is in the cache was there before, or it has just been put there under the present
generation. -/
theorem cases_of_find? (t : CacheTurn c st note c') {key text : String}
    (h : c'.find? key = some text) :
    c'.generation key = c.generation key ∧ (c.find? key = some text ∨
      ∃ next, st = .asking (.ask (.cache (.fill key text (c.generation key))) next)) := by
  cases t with
  | rest _ => exact ⟨rfl, Or.inl h⟩
  | @fill x value next hbefore =>
    refine ⟨rfl, ?_⟩
    rw [Cache.find?_put] at h
    split at h
    · rename_i hx
      subst hx
      obtain rfl := Option.some.inj h
      exact Or.inr ⟨next, hbefore⟩
    · exact Or.inl h
  | @invalidate x =>
    rw [Cache.find?_drop] at h
    split at h
    · cases h
    · rename_i hx
      refine ⟨?_, Or.inl h⟩
      have hnext := Cache.generation_nextGeneration c x key
      rw [if_neg hx] at hnext
      exact hnext

end CacheTurn

/-- What a reader puts into the cache is what it has found in the store. -/
theorem Reading.of_fill {c : Cache} {w : World} {settled : Prop} {id company : Uuid}
    {key value : String} {n : Nat} {next : Except Failure Bool → Action (Except Failure Detail)}
    (h : Reading c w settled id company (.asking (.ask (.cache (.fill key value n)) next))) :
    ∃ p, value = p.print ∧
      (n = c.generation (detailKey id) → settled → w.toStore.find? id = some p) := by
  cases h with
  | filling _ hfound => exact ⟨_, rfl, hfound⟩
  | leaving hasks => exact absurd rfl (hasks.1 key value n)

/-! ### The invariant -/

def Call.Reads (c : Cache) (w : World) (history : List Note) : Call → Prop
  | ⟨.get id company, stage, _, _⟩ => Reading c w (¬ Unsettled id history) id company stage
  | _ => True

namespace System

/-- What happens to a promotion between two moments: its generation is not begun anew, and as long
as it does not end, nothing is done to the promotion but what is noted as a write. -/
structure Passes (id : Uuid) (s s' : System) : Prop where
  generation_le : s.shared.cache.generation (detailKey id) ≤
    s'.shared.cache.generation (detailKey id)
  kept : s'.shared.cache.generation (detailKey id) = s.shared.cache.generation (detailKey id) →
    ¬ Unsettled id s'.history →
      ¬ Unsettled id s.history ∧ s.shared.world.Keeps id s'.shared.world

/-- Every text in the cache is the one of what the store has, and every reader has a right to what
it is going to put there, save for promotions with a write that is not settled. -/
structure Coherent (s : System) : Prop where
  entries : ∀ id text, s.shared.cache.find? (detailKey id) = some text →
    ¬ Unsettled id s.history → ∃ p, s.store.find? id = some p ∧ text = p.print
  readers : ∀ c ∈ s.calls, c.Reads s.shared.cache s.shared.world s.history

end System

namespace Call.Reads

variable {s s' : System} {c : Call}

theorem begin (cache : Cache) (w : World) (history : List Note) (o : Operation) :
    (Call.begin o).Reads cache w history := by
  cases o with
  | get id company => exact .begun
  | create | list | count | update | delete | activate => trivial

/-- A call that was given up reads nothing any more. -/
theorem abandon (c : Call) (cache : Cache) (w : World) (history : List Note) :
    c.abandon.Reads cache w history := by
  obtain ⟨o, stage, captured, counted⟩ := c
  cases o with
  | get id company => exact .leaving trivial
  | create | list | count | update | delete | activate => trivial

/-- Where a reader is stays true as long as its promotion passes from one moment to the other. -/
theorem mono (h : c.Reads s.shared.cache s.shared.world s.history)
    (hp : ∀ id, System.Passes id s s') :
    c.Reads s'.shared.cache s'.shared.world s'.history := by
  obtain ⟨o, stage, captured, counted⟩ := c
  cases o with
  | get id company => exact Reading.mono h (hp id).generation_le (hp id).kept
  | create | list | count | update | delete | activate => trivial

/-- Wherever a reader is, its next step takes it to a place at which it can be. -/
theorem advance {ch : Choice} {caller : Nat} {shared : Shared} {note : Option Note}
    {stage : Stage c.operation.Result} (h : c.Reads s.shared.cache s.shared.world s.history)
    (hstep : c.stage.step ch caller s.shared = some (stage, shared, note)) :
    (c.advance stage note).Reads s.shared.cache s.shared.world s.history := by
  obtain ⟨o, before, captured, counted⟩ := c
  cases o with
  | get id company => exact Reading.of_step h hstep
  | create | list | count | update | delete | activate => trivial

/-- A reader that is about to fill has a right to what it fills with. -/
theorem of_fill {cache : Cache} {w : World} {history : List Note} (h : c.Reads cache w history)
    (hasks : c.stage.Asks c.operation.MayAsk) {key text : String} {n : Nat}
    {next : Except Failure Bool → Action c.operation.Result}
    (hfill : c.stage = .asking (.ask (.cache (.fill key text n)) next)) :
    ∃ id p, key = detailKey id ∧ text = p.print ∧
      (n = cache.generation (detailKey id) → ¬ Unsettled id history →
        w.toStore.find? id = some p) := by
  obtain ⟨o, before, captured, counted⟩ := c
  dsimp only at next hfill
  subst hfill
  obtain ⟨id, company, rfl, hkey⟩ := hasks.1
  obtain ⟨p, htext, hp⟩ := Reading.of_fill h
  exact ⟨id, p, hkey, htext, hp⟩

end Call.Reads

namespace System

variable {g : Nat → Int} {s s' : System}

/-- A step of a call passes over every promotion as it should. -/
theorem Sound.passes (h : s.Sound g) {caller : Nat} {ch : Choice} {c : Call} {shared : Shared}
    {stage : Stage c.operation.Result} {note : Option Note} (hc : s.calls[caller]? = some c)
    (hstep : c.stage.step ch caller s.shared = some (stage, shared, note)) (calls : List Call)
    (id : Uuid) : Passes id s ⟨shared, calls, note.toList ++ s.history⟩ := by
  have hmem : c ∈ s.calls := List.mem_of_getElem? hc
  have hcache := CacheTurn.of_steps (Stage.steps_of_step hstep)
  refine ⟨hcache.generation_le _, fun hsame hsettled => ?_⟩
  have hnote : ∀ n, note = some n → ¬ n.Writes id := by
    rintro n rfl hwrites
    exact hsettled (unsettled_cons.mpr (Or.inl hwrites))
  refine ⟨?_, ?_⟩
  · cases note with
    | none => exact hsettled
    | some n =>
      intro hbefore
      refine hsettled (unsettled_cons.mpr (Or.inr ⟨?_, hbefore⟩))
      rintro rfl
      exact hcache.generation_ne rfl hsame
  · refine (h.turn hc hstep).keeps h.layout (fun x r next hstage => ?_) hnote
    exact (h.placed c hmem).owns_deciding hstage

/-- A step of a call keeps the cache coherent. What is in the way of a fill was noted as a write or
began another generation. -/
theorem Coherent.advance (h : s.Coherent) (hsound : s.Sound g) {caller : Nat} {ch : Choice}
    {c : Call} {shared : Shared} {stage : Stage c.operation.Result} {note : Option Note}
    (hc : s.calls[caller]? = some c)
    (hstep : c.stage.step ch caller s.shared = some (stage, shared, note)) :
    Coherent ⟨shared, s.calls.set caller (c.advance stage note), note.toList ++ s.history⟩ := by
  have hmem : c ∈ s.calls := List.mem_of_getElem? hc
  have hpasses := hsound.passes hc hstep (s.calls.set caller (c.advance stage note))
  have hcache := CacheTurn.of_steps (Stage.steps_of_step hstep)
  refine ⟨?_, ?_⟩
  · intro id text hfind hsettled
    obtain ⟨hsame, horigin⟩ := hcache.cases_of_find? hfind
    obtain ⟨hbefore, hkeeps⟩ := (hpasses id).kept hsame hsettled
    have hfound : ∃ p, s.store.find? id = some p ∧ text = p.print := by
      rcases horigin with hold | ⟨next, hfill⟩
      · exact h.entries id text hold hbefore
      · -- The call that fills reads this very promotion, since no other one has its key.
        obtain ⟨x, p, hkey, htext, hp⟩ :=
          (h.readers c hmem).of_fill (hsound.asks c hmem) hfill
        obtain rfl := detailKey_injective hkey
        exact ⟨p, hp rfl hbefore, htext⟩
    obtain ⟨p, hp, htext⟩ := hfound
    exact ⟨p, hkeeps.find?_toStore hp, htext⟩
  · intro d hd
    refine Call.Reads.mono (s := s) ?_ hpasses
    rcases of_mem_set hd with rfl | ⟨j, -, hj⟩
    · exact (h.readers c hmem).advance hstep
    · exact h.readers d (List.mem_of_getElem? hj)

theorem keeps_letGo (id : Uuid) (w : World) (held : Option Nat) : w.Keeps id (letGo w held) :=
  .of_count?_eq (pools_letGo w held) (count?_letGo w held)

/-- Whatever happens, the cache stays coherent. -/
theorem Coherent.next (h : s.Coherent) (hsound : s.Sound g) {m : Move}
    (hm : s.next m = some s') : s'.Coherent := by
  cases happens_of_next hm with
  | begin o =>
    refine ⟨h.entries, fun c hc => ?_⟩
    rcases List.mem_append.mp hc with hold | hnew
    · exact h.readers c hold
    · obtain rfl := List.mem_singleton.mp hnew
      exact .begin ..
  | advance hc hstep => exact h.advance hsound hc hstep
  | @abandon caller c hc _ =>
    have hkeeps (id : Uuid) : s.shared.world.Keeps id (letGo s.shared.world c.stage.held?) :=
      keeps_letGo id _ _
    refine ⟨?_, ?_⟩
    · intro id text hfind hsettled
      obtain ⟨p, hp, htext⟩ := h.entries id text hfind hsettled
      exact ⟨p, (hkeeps id).find?_toStore hp, htext⟩
    · intro d hd
      rcases of_mem_set hd with rfl | ⟨j, -, hj⟩
      · exact .abandon ..
      · refine (h.readers d (List.mem_of_getElem? hj)).mono fun id => ?_
        exact ⟨Nat.le_refl _, fun _ hsettled => ⟨hsettled, hkeeps id⟩⟩
  | failCache failing =>
    refine ⟨h.entries, fun c hc => (h.readers c hc).mono fun id => ?_⟩
    exact ⟨Nat.le_refl _, fun _ hsettled => ⟨hsettled, .of_count?_eq rfl fun _ => rfl⟩⟩
  | failCodes _ => exact ⟨h.entries, h.readers⟩

/-- The cache is coherent after any schedule. -/
theorem Coherent.run (h : s.Coherent) (hsound : s.Sound g) {ms : List Move}
    (hrun : s.run ms = some s') : s'.Coherent := by
  have hboth : s'.Sound g ∧ s'.Coherent := by
    refine run_induction hrun (P := fun t => t.Sound g ∧ t.Coherent) ⟨hsound, h⟩ ?_
    rintro t m t' - ⟨htsound, ht⟩ hm
    exact ⟨htsound.next hm, ht.next htsound hm⟩
  exact hboth.2

/-- An empty cache is coherent with any store. -/
theorem coherent_start (store : Store) {cache : Cache} (hempty : cache.entries = []) :
    (start store cache).Coherent := by
  refine ⟨?_, ?_⟩
  · intro id text hfind
    simp [start, Cache.find?, hempty] at hfind
  · intro c hc
    cases hc

/-- The cache is coherent. From an empty cache, whatever calls are made, in whatever order their
steps are taken, whichever operations of the cache fail and whichever calls are given up: a text in
the cache that is not the one of what the store has means that some write to the promotion has had
no successful invalidation after it. So when every write to a promotion was followed by a successful
invalidation, a text that the cache answers with is read as exactly what the store has. -/
theorem stale_texts_are_unsettled {store : Store} {cache : Cache} {ms : List Move} {s : System}
    (hempty : cache.entries = []) (hrun : (start store cache).run ms = some s) :
    (∀ id text, s.shared.cache.find? (detailKey id) = some text →
      (∀ p, s.store.find? id = some p → text ≠ p.print) → Unsettled id s.history) ∧
    (∀ id text, ¬ Unsettled id s.history →
      (Cache.answer (.find (detailKey id)) s.shared.cache).1 = .ok (some text) →
        ∃ p, s.store.find? id = some p ∧ text = p.print ∧
          Service.cached (Cache.answer (.find (detailKey id)) s.shared.cache).1 = some p) := by
  have h := (coherent_start store hempty).run (sound_start store cache) hrun
  refine ⟨?_, ?_⟩
  · intro id text hfind hstale
    by_contra hsettled
    obtain ⟨p, hp, htext⟩ := h.entries id text hfind hsettled
    exact hstale p hp htext
  · intro id text hsettled hanswer
    have hfind : s.shared.cache.find? (detailKey id) = some text := by
      simp only [Cache.answer] at hanswer
      split at hanswer
      · cases hanswer
      · exact Except.ok.inj hanswer
    obtain ⟨p, hp, htext⟩ := h.entries id text hfind hsettled
    refine ⟨p, hp, htext, ?_⟩
    rw [hanswer, htext, Service.cached, Promotion.parse_print]
    rfl

/-- A reader that has copied a promotion, but fills only after an activation of it was counted and
declared the text stale; then a reader that begins afterwards. -/
def slowReader : List Move :=
  [.begin (.get (Supply.idAt 0) (Supply.idAt 1)), .begin (.activate (Supply.idAt 0)),
    .begin (.get (Supply.idAt 0) (Supply.idAt 1))] ++
    turns ([0, 0, 0, 0, 0, 0, 0] ++ [1, 1, 1, 1, 1, 1, 1, 1, 1] ++ [0] ++
      [2, 2, 2, 2, 2, 2, 2, 2])

/-- What is left in the cache after the slow reader is the text of what the store has. -/
theorem slow_reader_leaves_current_text : ∃ s,
    (start (.single [⟨"SOLE", 0, 1⟩]) {}).run slowReader = some s ∧
      s.shared.cache.entries.length = 1 ∧
      ∀ text, s.shared.cache.find? (detailKey (Supply.idAt 0)) = some text →
        ∃ p, s.store.find? (Supply.idAt 0) = some p ∧ text = p.print := by
  obtain ⟨s, hs⟩ := Option.isSome_iff_exists.mp
    (by decide : ((start (.single [⟨"SOLE", 0, 1⟩]) {}).run slowReader).isSome)
  have hend : ((start (.single [⟨"SOLE", 0, 1⟩]) {}).run slowReader).map
      (fun s => (s.shared.cache.entries.length, s.history)) =
        some (1, [.staled (detailKey (Supply.idAt 0)), .counted (Supply.idAt 0) 0,
          .captured [0]]) := by decide +kernel
  rw [hs, Option.map_some, Option.some.injEq, Prod.mk.injEq] at hend
  obtain ⟨hone, hhistory⟩ := hend
  refine ⟨s, hs, hone, fun text hfind => ?_⟩
  by_contra hstale
  have hunsettled := (stale_texts_are_unsettled rfl hs).1 _ text hfind
    fun p hp htext => hstale ⟨p, hp, htext⟩
  rw [hhistory, unsettled_cons] at hunsettled
  rcases hunsettled with hwrites | ⟨hne, -⟩
  · exact hwrites
  · exact hne rfl

end System

end Promotions.Memory
