import Promotions.Proofs.KeyServer
import Promotions.Proofs.Questions

/-!
The keys of promotions in one flat space. The cache names two keys for a promotion, that of its text
and that of the generation of its text, and no two of all these keys are the same. What a request
reads and what it writes are told here apart, so that requests about different promotions are seen
to pass each other by: neither changes an answer to the other, in any order and any number.
-/

namespace Promotions

namespace CacheRequest

def reads : CacheRequest → List String
  | find key => [key]
  | generation key | fill key _ _ | invalidate key => [generationKey key]

def writes : CacheRequest → List String
  | find _ | generation _ => []
  | fill key _ _ => [key]
  | invalidate key => [generationKey key, key]

/-- A request touches the key that it is about and that of its generation, and no other. -/
theorem key_of_mem {r : CacheRequest} {k : String} (h : k ∈ r.reads ∨ k ∈ r.writes) :
    k = r.key ∨ k = generationKey r.key := by
  cases r <;> simp [reads, writes, key] at h ⊢ <;> tauto

end CacheRequest

namespace Redis

def Command.keys : Command → List String
  | .get key | .increment key | .delete key => [key]
  | .runScript _ key other _ => [key, other]
  | .loadScript _ | .multi | .exec => []

/-! ### What is sent -/

theorem asks_send {P : Request → Prop} {c : Command} (h : P (.single c)) : (send c).Asks P :=
  ⟨h, fun _ => trivial⟩

theorem asks_runScript {P : Request → Prop} {script key other : String} {arguments : List String}
    (hrun : P (.single (.runScript script key other arguments)))
    (hload : P (.single (.loadScript script))) : (runScript script key other arguments).Asks P := by
  refine (asks_send hrun).bind fun r => ?_
  split
  · split
    · refine (asks_send hload).bind fun r => ?_
      split
      · exact trivial
      · exact asks_send hrun
    · exact trivial
  · exact trivial

/-- Whatever the server replies, the commands of a request name the key that it is about and that of
its generation only. -/
theorem Cache.asks_answer (r : CacheRequest) : (Cache.answer r).Asks fun q =>
    ∀ c ∈ q.commands, ∀ k ∈ c.keys, k = r.key ∨ k = generationKey r.key := by
  cases r with
  | find key =>
    refine (asks_send ?_).bind fun _ => trivial
    simp [Request.commands, Command.keys, CacheRequest.key]
  | generation key =>
    refine (asks_send ?_).bind fun _ => trivial
    simp [Request.commands, Command.keys, CacheRequest.key]
  | fill key value n =>
    refine (asks_runScript ?_ ?_).bind fun _ => trivial
    · simp [Request.commands, Command.keys, CacheRequest.key]
    · simp [Request.commands, Command.keys]
  | invalidate key =>
    refine ⟨?_, fun _ => trivial⟩
    simp [Request.commands, Command.keys, CacheRequest.key]

namespace Server

variable (digest : String → String) (s : Server)

/-! ### What is read and written -/

/-- The generation is asked for by one look-up, whose reply is read as a count. -/
theorem perform_counter (key : String) : s.perform digest (Cache.generation key) =
    (Cache.named ("GET " ++ generationKey key)
      (((s.texts (generationKey key)).elim .nothing Reply.text).success.bind Reply.counter), s) :=
  rfl

/-- A text is written by the script, whose reply tells whether it was. -/
theorem perform_script (key value : String) (n : Nat) :
    let filled := s.fill key (generationKey key) [value, toString n]
    (s.perform digest (Cache.fill key value n)).1 =
        Cache.named ("SET " ++ key) (filled.1.number.map fun n => n == 1) ∧
      (s.perform digest (Cache.fill key value n)).2.texts = filled.2.texts := by
  obtain ⟨hreply, htexts⟩ :=
    s.perform_runScript digest key (generationKey key) [value, toString n]
  constructor
  · have hanswer : (s.perform digest (Cache.fill key value n)).1 =
        Cache.named ("SET " ++ key) (((s.perform digest (runScript fillScript key
          (generationKey key) [value, toString n])).1.bind Reply.number).map fun n => n == 1) := by
      rw [Cache.fill, perform_bind]
      rfl
    rw [hanswer, hreply]
    rfl
  · rw [Cache.fill, perform_bind, ← htexts]
    rfl

/-- An invalidation is two commands carried out together: the counter goes up and the text is
removed. -/
theorem perform_removal (key : String) :
    let counted := s.increment (generationKey key)
    s.perform digest (Cache.invalidate key) =
      (Cache.named ("DEL " ++ key)
        ((Reply.list [counted.1, (counted.2.delete key).1]).success.bind Reply.together),
          (counted.2.delete key).2) := rfl

theorem texts_increment_of_ne {key k : String} (h : k ≠ key) :
    (s.increment key).2.texts k = s.texts k := by
  unfold increment
  split
  · rfl
  · split
    · rfl
    · exact if_neg h

/-- What a request does not write is left as it was. -/
theorem texts_answer {r : CacheRequest} {k : String} (h : k ∉ r.writes) :
    (s.perform digest (Cache.answer r)).2.texts k = s.texts k := by
  cases r with
  | find key => rw [Cache.answer, perform_find]
  | generation key => rw [Cache.answer, perform_counter]
  | fill key value n =>
    have hne : k ≠ key := by simpa [CacheRequest.writes] using h
    rw [Cache.answer, (s.perform_script digest key value n).2]
    simp only [fill]
    split_ifs
    · exact if_neg hne
    · rfl
  | invalidate key =>
    obtain ⟨hcounter, hne⟩ : k ≠ generationKey key ∧ k ≠ key := by
      simpa [CacheRequest.writes] using h
    rw [Cache.answer, perform_removal, delete, texts_drop, if_neg hne]
    exact s.texts_increment_of_ne hcounter

/-- Counting up hangs on the text under its own key only, and changes no other. -/
theorem increment_congr {s t : Server} {key : String} (h : t.texts key = s.texts key) :
    (t.increment key).1 = (s.increment key).1 ∧
      ∀ k, t.texts k = s.texts k → (t.increment key).2.texts k = (s.increment key).2.texts k := by
  unfold increment
  rw [h]
  split
  · exact ⟨rfl, fun _ hk => hk⟩
  · split
    · exact ⟨rfl, fun _ hk => hk⟩
    · refine ⟨rfl, fun k hk => ?_⟩
      simp only [texts_put, hk]

/-- The reply to a removal says whether there was a text, but the answer does not. -/
theorem together_success (r : Reply) (n m : Int) (hn : n = 0 ∨ n = 1) (hm : m = 0 ∨ m = 1) :
    (Reply.list [r, .integer n]).success.bind Reply.together =
      (Reply.list [r, .integer m]).success.bind Reply.together := by
  have hreadable : ∀ n : Int, n = 0 ∨ n = 1 →
      Reply.isReadable maxLevels (.list [r, .integer n]) = Reply.isReadable 99 r := by
    intro n hn
    rcases hn with rfl | rfl <;>
      simp [maxLevels, Reply.isReadable, Reply.areReadable, Text.minInt64, Text.maxInt64]
  have herror : ∀ n : Int, (Reply.list [r, .integer n]).firstError? = r.firstError? := by
    intro n
    simp [Reply.firstError?, Reply.firstErrorOf?]
  simp only [Reply.success, hreadable n hn, hreadable m hm, herror]
  split
  · split <;> rfl
  · rfl

/-- The answer to a request hangs on what it reads, and what it leaves under a key on that and on
what was there. -/
theorem answer_congr {s t : Server} {r : CacheRequest}
    (h : ∀ k ∈ r.reads, t.texts k = s.texts k) :
    (t.perform digest (Cache.answer r)).1 = (s.perform digest (Cache.answer r)).1 ∧
      ∀ k, t.texts k = s.texts k → (t.perform digest (Cache.answer r)).2.texts k =
        (s.perform digest (Cache.answer r)).2.texts k := by
  cases r with
  | find key =>
    have hkey : t.texts key = s.texts key := h key (List.mem_singleton_self key)
    rw [Cache.answer, perform_find, perform_find, hkey]
    exact ⟨rfl, fun _ hk => hk⟩
  | generation key =>
    have hcounter := h (generationKey key) (List.mem_singleton_self _)
    rw [Cache.answer, perform_counter, perform_counter, hcounter]
    exact ⟨rfl, fun _ hk => hk⟩
  | fill key value n =>
    have hcounter := h (generationKey key) (List.mem_singleton_self _)
    obtain ⟨hanswer, htexts⟩ := s.perform_script digest key value n
    obtain ⟨hanswer', htexts'⟩ := t.perform_script digest key value n
    rw [Cache.answer, hanswer, hanswer', htexts, htexts']
    simp only [fill, hcounter]
    split_ifs
    · refine ⟨rfl, fun k hk => ?_⟩
      simp only [texts_put, hk]
    · exact ⟨rfl, fun _ hk => hk⟩
  | invalidate key =>
    have hcounter := h (generationKey key) (List.mem_singleton_self _)
    obtain ⟨hreply, htexts⟩ := increment_congr hcounter
    rw [Cache.answer, perform_removal, perform_removal]
    refine ⟨?_, fun k hk => ?_⟩
    · simp only [hreply, delete]
      exact congrArg _ (together_success _ _ _ (by split <;> simp) (by split <;> simp))
    · simp only [delete, texts_drop, htexts k hk]

/-! ### One promotion among others -/

/-- A request about one promotion leaves both keys of every other promotion as they are. -/
theorem texts_answer_of_ne {r : CacheRequest} {a b : Uuid} (hkey : r.key = detailKey a)
    (hne : b ≠ a) :
    let after := (s.perform digest (Cache.answer r)).2
    after.texts (detailKey b) = s.texts (detailKey b) ∧
      after.texts (generationKey (detailKey b)) = s.texts (generationKey (detailKey b)) := by
  have hkept {k : String} (hentry : k ≠ detailKey a) (hcounter : k ≠ generationKey (detailKey a)) :
      (s.perform digest (Cache.answer r)).2.texts k = s.texts k := by
    refine s.texts_answer digest fun hmem => ?_
    rcases CacheRequest.key_of_mem (Or.inr hmem) with hk | hk
    · exact hentry (hk.trans hkey)
    · exact hcounter (hk.trans (congrArg generationKey hkey))
  refine ⟨hkept ?_ ?_, hkept ?_ ?_⟩
  · exact fun h => hne (detailKey_injective h)
  · exact detailKey_ne_generationKey b a
  · exact (detailKey_ne_generationKey a b).symm
  · exact fun h => hne (detailKey_injective (generationKey_injective h))

/-- Requests about a promotion are answered from what lies under its own two keys. -/
theorem answer_congr_of_key {s t : Server} {r : CacheRequest} {a : Uuid}
    (hkey : r.key = detailKey a) (hentry : t.texts (detailKey a) = s.texts (detailKey a))
    (hcounter : t.texts (generationKey (detailKey a)) = s.texts (generationKey (detailKey a))) :
    (t.perform digest (Cache.answer r)).1 = (s.perform digest (Cache.answer r)).1 ∧
      ∀ k, t.texts k = s.texts k → (t.perform digest (Cache.answer r)).2.texts k =
        (s.perform digest (Cache.answer r)).2.texts k := by
  refine answer_congr digest fun k hk => ?_
  rcases CacheRequest.key_of_mem (Or.inl hk) with hk | hk
  · rw [hk, hkey, hentry]
  · rw [hk, hkey, hcounter]

/-- Requests about one promotion are answered alike by servers that agree on its two keys. -/
theorem serve_congr {a : Uuid} {turns : List Turn}
    (hkeys : ∀ t ∈ turns, t.request.key = detailKey a) {s s' : Server}
    (hentry : s'.texts (detailKey a) = s.texts (detailKey a))
    (hcounter : s'.texts (generationKey (detailKey a)) = s.texts (generationKey (detailKey a))) :
    s'.serve digest turns = s.serve digest turns := by
  induction turns generalizing s s' with
  | nil => rfl
  | cons t turns ih =>
    obtain ⟨hkey, hkeys⟩ := List.forall_mem_cons.mp hkeys
    obtain ⟨hanswer, hafter⟩ := answer_congr_of_key digest
      (s := { s with scripts := t.known }) (t := { s' with scripts := t.known }) hkey hentry hcounter
    have hrest := ih hkeys (hafter _ hentry) (hafter _ hcounter)
    simp only [serve, hanswer, hrest]

/-- Requests about other promotions may be left out of a run: those about one promotion are answered
as if there were no others. -/
theorem filter_serve {turns : List Turn}
    (hkeys : ∀ t ∈ turns, ∃ id, t.request.key = detailKey id) (a : Uuid) :
    (s.serve digest turns).filter (fun served => served.1.key = detailKey a) =
      s.serve digest (turns.filter fun t => t.request.key = detailKey a) := by
  induction turns generalizing s with
  | nil => rfl
  | cons t turns ih =>
    obtain ⟨⟨id, hkey⟩, hkeys⟩ := List.forall_mem_cons.mp hkeys
    by_cases hown : t.request.key = detailKey a
    · simp only [serve, List.filter_cons, hown, decide_true, if_true]
      rw [ih _ hkeys]
    · have hne : a ≠ id := fun heq => hown (heq ▸ hkey)
      obtain ⟨hentry, hcounter⟩ :=
        texts_answer_of_ne digest { s with scripts := t.known } hkey hne
      simp only [serve, List.filter_cons, hown, decide_false, Bool.false_eq_true, if_false]
      rw [ih _ hkeys]
      refine serve_congr digest (fun u hu => ?_) hentry hcounter
      simpa using (List.mem_filter.mp hu).2

/-- The keys of promotions never meet. Two promotions have the same key for their text, and the same
key for its generation, only if they are one, and no key for a text is ever one for a generation.
Whatever the server replies, the commands of a request about a promotion name its own two keys only.
On a server that keeps texts under keys in one flat space, a request about a promotion leaves what
lies under the keys of all others as it is, and its answer hangs on its own two keys alone. Texts
are not mistaken for counts, nor counts for texts: a text is looked up under its own key only, a
generation under its own only, and filling leaves every generation as it is. And in a run of requests
about any promotions, those about one of them are answered as if there were no others. -/
theorem key_spaces_never_meet :
    (∀ a b, detailKey a = detailKey b ↔ a = b) ∧
      (∀ a b, generationKey (detailKey a) = generationKey (detailKey b) ↔ a = b) ∧
      (∀ a b, detailKey a ≠ generationKey (detailKey b)) ∧
      (∀ (r : CacheRequest) (a : Uuid), r.key = detailKey a →
        (Cache.answer r).Asks (fun q => ∀ c ∈ q.commands, ∀ k ∈ c.keys,
          k = detailKey a ∨ k = generationKey (detailKey a)) ∧
        ∀ s : Server, (∀ b, b ≠ a →
            let after := (s.perform digest (Cache.answer r)).2
            after.texts (detailKey b) = s.texts (detailKey b) ∧
              after.texts (generationKey (detailKey b)) =
                s.texts (generationKey (detailKey b))) ∧
          ∀ t : Server, t.texts (detailKey a) = s.texts (detailKey a) →
            t.texts (generationKey (detailKey a)) = s.texts (generationKey (detailKey a)) →
              (t.perform digest (Cache.answer r)).1 = (s.perform digest (Cache.answer r)).1) ∧
      (∀ (s t : Server) (a : Uuid),
        (t.texts (detailKey a) = s.texts (detailKey a) →
          (t.perform digest (Cache.find (detailKey a))).1 =
            (s.perform digest (Cache.find (detailKey a))).1) ∧
        (t.texts (generationKey (detailKey a)) = s.texts (generationKey (detailKey a)) →
          (t.perform digest (Cache.generation (detailKey a))).1 =
            (s.perform digest (Cache.generation (detailKey a))).1) ∧
        ∀ value n b, (s.perform digest (Cache.fill (detailKey a) value n)).2.texts
          (generationKey (detailKey b)) = s.texts (generationKey (detailKey b))) ∧
      ∀ (s : Server) (turns : List Turn), (∀ t ∈ turns, ∃ id, t.request.key = detailKey id) →
        ∀ a, (s.serve digest turns).filter (fun served => served.1.key = detailKey a) =
          s.serve digest (turns.filter fun t => t.request.key = detailKey a) := by
  refine ⟨fun a b => ⟨detailKey_injective, congrArg detailKey⟩, fun a b => ⟨fun h => ?_, fun h => ?_⟩,
    detailKey_ne_generationKey, fun r a hkey => ⟨?_, fun s => ⟨fun b hne => ?_, fun t hentry hcounter
      => ?_⟩⟩, fun s t a => ⟨fun h => ?_, fun h => ?_, fun value n b => ?_⟩,
    fun s turns hkeys a => s.filter_serve digest hkeys a⟩
  · exact detailKey_injective (generationKey_injective h)
  · rw [h]
  · exact (Cache.asks_answer r).imp fun q hq => hkey ▸ hq
  · exact s.texts_answer_of_ne digest hkey hne
  · exact (answer_congr_of_key digest hkey hentry hcounter).1
  · exact (answer_congr digest (r := .find (detailKey a)) (by simpa [CacheRequest.reads] using h)).1
  · exact (answer_congr digest (r := .generation (detailKey a))
      (by simpa [CacheRequest.reads] using h)).1
  · refine s.texts_answer digest (r := .fill (detailKey a) value n) ?_
    simpa [CacheRequest.writes] using (detailKey_ne_generationKey a b).symm

/-- Two promotions whose identifiers differ in the last digit are cached by turns. -/
def neighbouringTurns : List Turn :=
  let first := detailKey (.ofNat 1)
  let second := detailKey (.ofNat 2)
  [⟨[], .fill first "um" 0⟩, ⟨[], .fill second "dois" 0⟩, ⟨[], .invalidate first⟩,
    ⟨[], .find second⟩, ⟨[], .find first⟩]

/-- What was cached for the second promotion is found, whatever becomes of the first one
meanwhile. -/
theorem neighbours_never_meet :
    let served := serve (fun _ => "") neighbouringTurns {}
    let second := detailKey (.ofNat 2)
    detailKey (.ofNat 1) ≠ second ∧
      served.filter (fun a => a.1.key = second) =
        serve (fun _ => "") [⟨[], .fill second "dois" 0⟩, ⟨[], .find second⟩] {} ∧
      (({} : Server).perform (fun _ => "") (Cache.fill second "dois" 0)).2.texts
        (detailKey (.ofNat 1)) = none := by
  obtain ⟨hkey, -, -, hrequest, -, hruns⟩ := key_spaces_never_meet fun _ => ""
  have hne : Uuid.ofNat 1 ≠ Uuid.ofNat 2 := by decide
  have hdetail : detailKey (.ofNat 1) ≠ detailKey (.ofNat 2) := fun h => hne ((hkey _ _).mp h)
  have hkeys : ∀ t ∈ neighbouringTurns, ∃ id, t.request.key = detailKey id := by
    intro t ht
    simp only [neighbouringTurns, List.mem_cons, List.not_mem_nil, or_false] at ht
    rcases ht with rfl | rfl | rfl | rfl | rfl
    exacts [⟨.ofNat 1, rfl⟩, ⟨.ofNat 2, rfl⟩, ⟨.ofNat 1, rfl⟩, ⟨.ofNat 2, rfl⟩, ⟨.ofNat 1, rfl⟩]
  refine ⟨hdetail, ?_, ?_⟩
  · rw [hruns {} neighbouringTurns hkeys (.ofNat 2)]
    simp [neighbouringTurns, CacheRequest.key, hdetail]
  · exact ((hrequest (.fill (detailKey (.ofNat 2)) "dois" 0) (.ofNat 2) rfl).2 {}).1 (.ofNat 1)
      hne |>.1

end Server

end Redis

end Promotions
