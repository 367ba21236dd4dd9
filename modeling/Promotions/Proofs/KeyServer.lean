import Promotions.Proofs.Keys
import Promotions.Redis.Cache

/-!
The cache on a server against the cache in memory. The server keeps nothing but texts under keys:
an entry is one of them, and its generation is another, in decimal, which is missing until it ends
for the first time. Whatever is asked, both caches answer the same, and the answers are told by what
was asked before.
-/

namespace Promotions

open Text

/-! ### Caches as their histories tell -/

namespace CacheRequest

def ends (key : String) : CacheRequest → Nat
  | invalidate k => if key = k then 1 else 0
  | find _ | generation _ | fill _ _ _ => 0

def ended (key : String) (rs : List CacheRequest) : Nat := (rs.map (ends key)).sum

/-- The text that is kept under a key after requests, the latest first: the last one that was given
with the generation of that moment, unless the entry was removed since. -/
def kept? (key : String) : List CacheRequest → Option String
  | [] => none
  | fill k value n :: earlier =>
    if key = k ∧ ended k earlier = n then some value else kept? key earlier
  | invalidate k :: earlier => if key = k then none else kept? key earlier
  | find _ :: earlier | generation _ :: earlier => kept? key earlier

def told (earlier : List CacheRequest) : (r : CacheRequest) → r.Answer
  | find key => .ok (kept? key earlier)
  | generation key => .ok (ended key earlier)
  | fill key _ n => .ok (ended key earlier = n)
  | invalidate _ => .ok ()

/-- Requests with the answers that they are told, after others, the latest first. -/
def account (earlier : List CacheRequest) :
    List CacheRequest → List ((r : CacheRequest) × r.Answer)
  | [] => []
  | r :: rs => ⟨r, told earlier r⟩ :: account (r :: earlier) rs

@[simp] theorem ended_nil (key : String) : ended key [] = 0 := rfl

@[simp] theorem ended_cons (key : String) (r : CacheRequest) (rs : List CacheRequest) :
    ended key (r :: rs) = ends key r + ended key rs := rfl

theorem ended_append (key : String) (rs rs' : List CacheRequest) :
    ended key (rs ++ rs') = ended key rs + ended key rs' := by
  simp [ended]

theorem ended_pos {key : String} {rs : List CacheRequest} (h : invalidate key ∈ rs) :
    0 < ended key rs := by
  induction rs with
  | nil => cases h
  | cons r rs ih =>
    rw [ended_cons]
    rcases List.mem_cons.mp h with rfl | hrest
    · simp only [ends, if_true]
      omega
    · have := ih hrest
      omega

/-- A generation that is over when a key is declared stale is never accepted again. -/
theorem told_fill_of_invalidated {key value : String} {n : Nat}
    {earlier later : List CacheRequest} (hn : n ≤ ended key earlier)
    (hstale : invalidate key ∈ later) :
    told (later ++ earlier) (fill key value n) = .ok false := by
  have hpos := ended_pos hstale
  have hne : ended key (later ++ earlier) ≠ n := by
    rw [ended_append]
    omega
  simp [told, hne]

end CacheRequest

namespace Memory.Cache

def serve : List CacheRequest → Cache → List ((r : CacheRequest) × r.Answer)
  | [], _ => []
  | r :: rs, c => ⟨r, (answer r c).1⟩ :: serve rs (answer r c).2

open CacheRequest

/-- As long as the cache works, a generation ends when it is declared stale, and only then. -/
theorem generation_answer {c : Cache} (hworking : c.failing = false) (r : CacheRequest)
    (k : String) : (answer r c).2.generation k = c.generation k + ends k r := by
  cases r with
  | find key => rw [find_of_working key hworking, ends, Nat.add_zero]
  | generation key => rw [generation_of_working key hworking, ends, Nat.add_zero]
  | fill key value n =>
    rw [fill_of_working key hworking, ends, Nat.add_zero]
    dsimp only
    split <;> rfl
  | invalidate key =>
    rw [invalidate_of_working key hworking]
    change (c.nextGeneration key).generation k = _
    rw [generation_nextGeneration, ends]
    split
    · rename_i hk
      rw [hk]
    · rfl

/-- A cache holds what the requests that it was asked, the latest first, have left there. -/
structure Remembers (c : Cache) (earlier : List CacheRequest) : Prop where
  working : c.failing = false
  entries : ∀ key, c.find? key = kept? key earlier
  generations : ∀ key, c.generation key = ended key earlier

theorem remembers_nil : ({} : Cache).Remembers [] := ⟨rfl, fun _ => rfl, fun _ => rfl⟩

/-- A cache that remembers the requests answers the next one as they tell, and remembers it too. -/
theorem Remembers.answer {c : Cache} {earlier : List CacheRequest} (h : c.Remembers earlier)
    (r : CacheRequest) :
    (answer r c).1 = told earlier r ∧ (answer r c).2.Remembers (r :: earlier) := by
  have hgenerations (k : String) : (Cache.answer r c).2.generation k = ended k (r :: earlier) := by
    rw [generation_answer h.working, h.generations, ended_cons, Nat.add_comm]
  cases r with
  | find key =>
    rw [find_of_working key h.working] at hgenerations ⊢
    exact ⟨congrArg Except.ok (h.entries key), h.working, h.entries, hgenerations⟩
  | generation key =>
    rw [generation_of_working key h.working] at hgenerations ⊢
    exact ⟨congrArg Except.ok (h.generations key), h.working, h.entries, hgenerations⟩
  | fill key value n =>
    rw [fill_of_working key h.working, h.generations key] at hgenerations ⊢
    refine ⟨rfl, ?_, fun k => ?_, hgenerations⟩
    · dsimp only
      split <;> exact h.working
    · by_cases hcurrent : ended key earlier = n
      · simp only [kept?, hcurrent, and_true, if_true]
        rw [find?_put, h.entries k]
      · simp only [kept?, hcurrent, and_false, if_false]
        exact h.entries k
  | invalidate key =>
    rw [invalidate_of_working key h.working] at hgenerations ⊢
    refine ⟨rfl, h.working, fun k => ?_, hgenerations⟩
    rw [find?_drop]
    simp only [kept?]
    split
    · rfl
    · exact h.entries k

/-- So a cache in memory answers any requests as they tell. -/
theorem Remembers.serve {c : Cache} {earlier : List CacheRequest} (h : c.Remembers earlier)
    (rs : List CacheRequest) : serve rs c = account earlier rs := by
  induction rs generalizing c earlier with
  | nil => rfl
  | cons r rs ih =>
    obtain ⟨hanswer, hafter⟩ := h.answer r
    rw [Cache.serve, account, hanswer, ih hafter]

end Memory.Cache

namespace Redis

/-! ### A server -/

structure Server where
  texts : String → Option String := fun _ => none
  scripts : List String := []

namespace Server

def put (s : Server) (key value : String) : Server :=
  { s with texts := fun k => if k = key then some value else s.texts k }

def drop (s : Server) (key : String) : Server :=
  { s with texts := fun k => if k = key then none else s.texts k }

@[simp] theorem texts_put (s : Server) (key value k : String) :
    (s.put key value).texts k = if k = key then some value else s.texts k := rfl

@[simp] theorem texts_drop (s : Server) (key k : String) :
    (s.drop key).texts k = if k = key then none else s.texts k := rfl

/-- The number of 64 bits that a text writes in the only way in which the server reads it. -/
def number? (text : String) : Option Int :=
  match Text.integer minInt64 maxInt64 text.toList with
  | .ok n => if toString n = text then some n else none
  | .error _ => none

def increment (s : Server) (key : String) : Reply × Server :=
  match number? ((s.texts key).getD "0") with
  | none => (.error "ERR value is not an integer or out of range", s)
  | some n =>
    if n = maxInt64 then (.error "ERR increment or decrement would overflow", s)
    else (.integer (n + 1), s.put key (toString (n + 1)))

def delete (s : Server) (key : String) : Reply × Server :=
  (.integer (if (s.texts key).isSome then 1 else 0), s.drop key)

/-- What the script that fills does: a text is written under the first key if the text under the
second one, or zero if it is missing, is the second argument. -/
def fill (s : Server) (key other : String) (arguments : List String) : Reply × Server :=
  match arguments with
  | value :: generation :: _ =>
    if (s.texts other).getD "0" = generation then (.integer 1, s.put key value)
    else (.integer 0, s)
  | _ => (.integer 0, s)

def noScript : String := "NOSCRIPT No matching script. Please use EVAL."

def run (s : Server) (script key other : String) (arguments : List String) :
    Reply × Server :=
  if script ∈ s.scripts then
    if script = fillScript then s.fill key other arguments else (.nothing, s)
  else (.error noScript, s)

variable (digest : String → String)

/-- The reply to a command. Those that begin and end a transaction are of no account by themselves:
what lies between them comes as one request. -/
def command (s : Server) : Command → Reply × Server
  | .get key => ((s.texts key).elim .nothing .text, s)
  | .runScript script key other arguments => s.run script key other arguments
  | .loadScript script => (.text (digest script), { s with scripts := script :: s.scripts })
  | .increment key => s.increment key
  | .delete key => s.delete key
  | .multi | .exec => (.nothing, s)

/-- The replies to commands one after another. Those behind one that fails are carried out too. -/
def commands : List Command → Server → List Reply × Server
  | [], s => ([], s)
  | c :: cs, s =>
    let (r, s) := s.command digest c
    let (rs, s) := commands cs s
    (r :: rs, s)

def answer (s : Server) : Request → Reply × Server
  | .single c => s.command digest c
  | .together cs =>
    let (rs, s) := commands digest cs s
    (.list rs, s)

def perform {α : Type} (s : Server) (d : Exchange α) : α × Server :=
  d.run (fun r s => s.answer digest r) s

/-- Something that the cache is asked, and the scripts that the server knows at that time. -/
structure Turn where
  known : List String
  request : CacheRequest

/-- Requests with the answers of the cache on a server. Between two of them the server may forget
scripts or learn new ones. -/
def serve : List Turn → Server → List ((r : CacheRequest) × r.Answer)
  | [], _ => []
  | t :: ts, s =>
    let (a, s) := { s with scripts := t.known }.perform digest (Cache.answer t.request)
    ⟨t.request, a⟩ :: serve ts s

/-! ### One request -/

variable {s : Server} {c : Memory.Cache}

/-- A number that was written is read back as long as it has at most 64 bits. -/
theorem number?_toString {n : Nat} (h : (n : Int) ≤ maxInt64) :
    number? (toString n) = some (n : Int) := by
  have hread : Text.integer minInt64 maxInt64 (toString n).toList = .ok (n : Int) :=
    integer_decimal (by decide) h
  have hwritten : toString (n : Int) = toString n := rfl
  simp only [number?, hread, hwritten, if_true]

/-- The server has the entries and the generations of a cache in memory that works. -/
structure Represents (s : Server) (c : Memory.Cache) : Prop where
  working : c.failing = false
  entries : ∀ id, s.texts (detailKey id) = c.find? (detailKey id)
  counters : ∀ id, (s.texts (generationKey (detailKey id))).getD "0" =
    toString (c.generation (detailKey id))

theorem perform_bind {α β : Type} (s : Server) (d : Exchange α) (k : α → Exchange β) :
    s.perform digest (d >>= k) =
      (s.perform digest d).2.perform digest (k (s.perform digest d).1) :=
  Dialogue.run_bind ..

theorem perform_send (s : Server) (c : Command) :
    s.perform digest (send c) = ((s.command digest c).1.success, (s.command digest c).2) := rfl

theorem perform_find (s : Server) (key : String) :
    s.perform digest (Cache.find key) = (.ok (s.texts key), s) := by
  have hperform : s.perform digest (Cache.find key) =
      (Cache.named ("GET " ++ key) (((s.texts key).elim .nothing Reply.text).success.bind
        Reply.text?), s) := rfl
  rw [hperform]
  cases s.texts key <;> rfl

/-- The counter under a key tells its generation. -/
theorem perform_generation {key : String} {n : Nat}
    (htext : (s.texts (generationKey key)).getD "0" = toString n) (hn : (n : Int) ≤ maxWord64) :
    s.perform digest (Cache.generation key) = (.ok n, s) := by
  have hperform : s.perform digest (Cache.generation key) =
      (Cache.named ("GET " ++ generationKey key)
        (((s.texts (generationKey key)).elim .nothing Reply.text).success.bind Reply.counter), s) :=
    rfl
  rw [hperform]
  cases hfound : s.texts (generationKey key) with
  | none =>
    rw [hfound] at htext
    obtain rfl : 0 = n := Nat.repr_inj.mp htext
    rfl
  | some text =>
    rw [hfound] at htext
    obtain rfl : text = toString n := htext
    have hread : Text.integer 0 maxWord64 (toString n).toList = .ok (n : Int) :=
      integer_decimal (Int.le_refl 0) hn
    have hcounter : (Reply.text (toString n)).counter = .ok n := by
      simp only [Reply.counter, hread, Int.toNat_natCast]
    simp only [Option.elim_some]
    change (Cache.named _ (Reply.text (toString n)).counter, s) = _
    rw [hcounter]
    rfl

theorem success_fill (s : Server) (key other : String) (arguments : List String) :
    (s.fill key other arguments).1.success = .ok (s.fill key other arguments).1 := by
  unfold fill
  repeat' split
  all_goals rfl

theorem fill_congr {s t : Server} (h : t.texts = s.texts) (key other : String)
    (arguments : List String) : (t.fill key other arguments).1 = (s.fill key other arguments).1 ∧
      (t.fill key other arguments).2.texts = (s.fill key other arguments).2.texts := by
  unfold fill
  rw [h]
  split
  · split
    · exact ⟨rfl, by simp only [put, h]⟩
    · exact ⟨rfl, h⟩
  · exact ⟨rfl, h⟩

/-- The script is run whether the server knew it or not. -/
theorem perform_runScript (s : Server) (key other : String) (arguments : List String) :
    (s.perform digest (runScript fillScript key other arguments)).1 =
        .ok (s.fill key other arguments).1 ∧
      (s.perform digest (runScript fillScript key other arguments)).2.texts =
        (s.fill key other arguments).2.texts := by
  unfold runScript
  by_cases hknown : fillScript ∈ s.scripts
  · have hcommand : s.command digest (.runScript fillScript key other arguments) =
        s.fill key other arguments := by
      simp only [command, run, hknown, if_true]
    rw [perform_bind, perform_send, hcommand, success_fill]
    exact ⟨rfl, rfl⟩
  · -- The first attempt is refused, the script is sent, and the second attempt finds it.
    have hcommand : s.command digest (.runScript fillScript key other arguments) =
        (.error noScript, s) := by
      simp only [command, run, hknown, if_false]
    have hforgotten : saysNoScript noScript = true := by decide
    let learned : Server := { s with scripts := fillScript :: s.scripts }
    have hload : s.command digest (.loadScript fillScript) =
        (.text (digest fillScript), learned) := rfl
    have hagain : learned.command digest (.runScript fillScript key other arguments) =
        learned.fill key other arguments := by
      simp [command, run, learned]
    have hrefused : (Reply.error noScript).success = .error noScript := rfl
    have hloaded : (Reply.text (digest fillScript)).success = .ok (.text (digest fillScript)) := rfl
    have hsame : learned.texts = s.texts := rfl
    obtain ⟨hreply, htexts⟩ := fill_congr hsame key other arguments
    rw [perform_bind, perform_send, hcommand, hrefused]
    simp only [hforgotten, if_true]
    rw [perform_bind, perform_send, hload, hloaded]
    simp only [perform_send]
    rw [hagain, success_fill, hreply]
    exact ⟨rfl, htexts⟩

/-- Invalidation counts one up and takes the text away. -/
theorem perform_invalidate {key : String} {n : Nat}
    (htext : (s.texts (generationKey key)).getD "0" = toString n) (hn : (n : Int) < maxInt64) :
    s.perform digest (Cache.invalidate key) =
      (.ok (), (s.put (generationKey key) (toString (n + 1))).drop key) := by
  have hincrement : s.increment (generationKey key) =
      (.integer (n + 1), s.put (generationKey key) (toString (n + 1))) := by
    have hnumber : number? (toString n) = some (n : Int) := number?_toString (Int.le_of_lt hn)
    simp only [increment, htext, hnumber, Int.ne_of_lt hn, if_false]
    rfl
  have hreply (m : Int) (hm : m = 0 ∨ m = 1) :
      (Reply.list [.integer (n + 1), .integer m]).success =
        .ok (.list [.integer (n + 1), .integer m]) := by
    have hlow : minInt64 ≤ (n : Int) + 1 := by
      have : minInt64 ≤ 0 := by decide
      omega
    have hhigh : (n : Int) + 1 ≤ maxInt64 := hn
    have hm' : minInt64 ≤ m ∧ m ≤ maxInt64 := by
      rcases hm with rfl | rfl <;> decide
    simp [Reply.success, maxLevels, Reply.isReadable, Reply.areReadable, Reply.firstError?,
      Reply.firstErrorOf?, hlow, hhigh, hm']
  have hperform : s.perform digest (Cache.invalidate key) =
      (Cache.named ("DEL " ++ key) ((Reply.list [(s.increment (generationKey key)).1,
        ((s.increment (generationKey key)).2.delete key).1]).success.bind Reply.together),
          ((s.increment (generationKey key)).2.delete key).2) := rfl
  rw [hperform, hincrement]
  simp only [delete]
  rw [hreply _ (by split <;> simp)]
  rfl

/-! ### Both caches -/

namespace Represents

variable {id : Uuid}

theorem congr (h : s.Represents c) {t : Server} (htexts : t.texts = s.texts) : t.Represents c := by
  refine ⟨h.working, fun id => ?_, fun id => ?_⟩
  · rw [htexts, h.entries]
  · rw [htexts, h.counters]

/-- A text is written where no generation is counted. -/
theorem put (h : s.Represents c) (id : Uuid) (value : String) :
    (s.put (detailKey id) value).Represents (c.put (detailKey id) value) := by
  refine ⟨h.working, fun x => ?_, fun x => ?_⟩
  · rw [Memory.Cache.find?_put, texts_put, h.entries]
  · rw [texts_put, if_neg (Ne.symm (detailKey_ne_generationKey id x))]
    exact h.counters x

/-- The server and the cache in memory still agree after an invalidation. -/
theorem invalidate (h : s.Represents c) (id : Uuid) :
    ((s.put (generationKey (detailKey id))
        (toString (c.generation (detailKey id) + 1))).drop (detailKey id)).Represents
      ((c.nextGeneration (detailKey id)).drop (detailKey id)) := by
  refine ⟨h.working, fun x => ?_, fun x => ?_⟩
  · rw [Memory.Cache.find?_drop, texts_drop, texts_put,
      if_neg (detailKey_ne_generationKey x id), h.entries]
    rfl
  · rw [texts_drop, if_neg (Ne.symm (detailKey_ne_generationKey id x)), texts_put]
    change _ = toString ((c.nextGeneration (detailKey id)).generation (detailKey x))
    rw [Memory.Cache.generation_nextGeneration]
    by_cases hx : detailKey x = detailKey id
    · rw [if_pos (congrArg generationKey hx), if_pos hx, Option.getD_some]
    · rw [if_neg fun heq => hx (generationKey_injective heq), if_neg hx]
      exact h.counters x

/-- The server compares texts where the cache in memory compares numbers. -/
theorem counter_eq_iff (h : s.Represents c) (n : Nat) :
    (s.texts (generationKey (detailKey id))).getD "0" = toString n ↔
      c.generation (detailKey id) = n := by
  rw [h.counters id]
  change (c.generation (detailKey id)).repr = n.repr ↔ _
  exact Nat.repr_inj

/-- The script fills exactly when the cache in memory does. -/
theorem perform_fill (h : s.Represents c) (id : Uuid) (value : String) (n : Nat) :
    (s.perform digest (Cache.fill (detailKey id) value n)).1 =
        .ok (c.generation (detailKey id) = n) ∧
      (s.perform digest (Cache.fill (detailKey id) value n)).2.Represents
        (if c.generation (detailKey id) = n then c.put (detailKey id) value else c) := by
  obtain ⟨hreply, htexts⟩ := s.perform_runScript digest (detailKey id)
    (generationKey (detailKey id)) [value, toString n]
  have hperform : s.perform digest (Cache.fill (detailKey id) value n) =
      (Cache.named ("SET " ++ detailKey id) (((s.perform digest (runScript fillScript (detailKey id)
        (generationKey (detailKey id)) [value, toString n])).1.bind Reply.number).map (· == 1)),
        (s.perform digest (runScript fillScript (detailKey id)
          (generationKey (detailKey id)) [value, toString n])).2) := perform_bind ..
  rw [hperform, hreply]
  by_cases hcurrent : c.generation (detailKey id) = n
  · have hfill : s.fill (detailKey id) (generationKey (detailKey id)) [value, toString n] =
        (.integer 1, s.put (detailKey id) value) := by
      simp only [fill, (h.counter_eq_iff n).mpr hcurrent, if_true]
    rw [hfill] at htexts ⊢
    rw [if_pos hcurrent]
    exact ⟨by simp [hcurrent]; rfl, (h.put id value).congr htexts⟩
  · have hfill : s.fill (detailKey id) (generationKey (detailKey id)) [value, toString n] =
        (.integer 0, s) := by
      simp only [fill, mt (h.counter_eq_iff n).mp hcurrent, if_false]
    rw [hfill] at htexts ⊢
    rw [if_neg hcurrent]
    exact ⟨by simp [hcurrent]; rfl, h.congr htexts⟩

/-- A request on a promotion's key is answered as in memory, and leaves the server with the entries
and generations that it leaves there. -/
theorem answer (h : s.Represents c) {r : CacheRequest} (hkey : r.key = detailKey id)
    (hroom : (c.generation r.key : Int) + CacheRequest.ends r.key r ≤ maxInt64) :
    (s.perform digest (Cache.answer r)).1 = (Memory.Cache.answer r c).1 ∧
      (s.perform digest (Cache.answer r)).2.Represents (Memory.Cache.answer r c).2 := by
  cases r with
  | find key =>
    obtain rfl : key = detailKey id := hkey
    rw [Cache.answer, perform_find, h.entries, Memory.Cache.find_of_working _ h.working]
    exact ⟨rfl, h⟩
  | generation key =>
    obtain rfl : key = detailKey id := hkey
    have hbound : (c.generation (detailKey id) : Int) ≤ maxWord64 := by
      have hwords : maxInt64 ≤ maxWord64 := by decide
      simp only [CacheRequest.key] at hroom
      omega
    rw [Cache.answer, perform_generation digest (h.counters id) hbound,
      Memory.Cache.generation_of_working _ h.working]
    exact ⟨rfl, h⟩
  | fill key value n =>
    obtain rfl : key = detailKey id := hkey
    rw [Cache.answer, Memory.Cache.fill_of_working _ h.working]
    exact h.perform_fill digest id value n
  | invalidate key =>
    obtain rfl : key = detailKey id := hkey
    have hbound : (c.generation (detailKey id) : Int) < maxInt64 := by
      simp only [CacheRequest.key, CacheRequest.ends, if_true] at hroom
      omega
    rw [Cache.answer, perform_invalidate digest (h.counters id) hbound,
      Memory.Cache.invalidate_of_working _ h.working]
    exact ⟨rfl, h.invalidate id⟩

/-- As long as no generation leaves 64 bits, all requests are answered as in memory. -/
theorem serve (h : s.Represents c) {turns : List Turn}
    (hkeys : ∀ t ∈ turns, ∃ id, t.request.key = detailKey id)
    (hroom : ∀ key, (c.generation key : Int) + CacheRequest.ended key (turns.map (·.request)) ≤
      maxInt64) : s.serve digest turns = c.serve (turns.map (·.request)) := by
  induction turns generalizing s c with
  | nil => rfl
  | cons t turns ih =>
    obtain ⟨⟨id, hkey⟩, hkeys⟩ := List.forall_mem_cons.mp hkeys
    simp only [List.map_cons, CacheRequest.ended_cons, Nat.cast_add] at hroom
    have hknown : Represents { s with scripts := t.known } c := h.congr rfl
    obtain ⟨hresult, hafter⟩ := hknown.answer digest hkey (by
      have := hroom t.request.key
      omega)
    have hrest := ih hafter hkeys fun key => by
      rw [Memory.Cache.generation_answer h.working, Nat.cast_add]
      have := hroom key
      omega
    simp only [Server.serve, Memory.Cache.serve, List.map_cons, hresult, hrest]

end Represents

/-- The cache on a server answers as the one in memory does, whatever it is asked. On a server that
has no text under the keys of promotions and of their generations, whatever it has under other keys,
and whichever scripts it knows at each request: as long as no generation ends two to the 63 times,
every request on the key of a promotion has the answer that it has in memory, where the cache is
empty at first, and this is the answer that the requests before it tell. A generation is the number
of times that its key was declared stale; a text is kept if and only if it is given with the present
generation; and once a key is declared stale, its text is gone and no earlier generation is accepted
again. -/
theorem answers_as_memory (digest : String → String) {s : Server} {turns : List Turn}
    (hempty : ∀ id, s.texts (detailKey id) = none ∧ s.texts (generationKey (detailKey id)) = none)
    (hkeys : ∀ t ∈ turns, ∃ id, t.request.key = detailKey id)
    (hroom : ∀ key, CacheRequest.ended key (turns.map (·.request)) < 2 ^ 63) :
    s.serve digest turns = Memory.Cache.serve (turns.map (·.request)) {} ∧
      s.serve digest turns = CacheRequest.account [] (turns.map (·.request)) ∧
      (∀ key earlier, CacheRequest.told (.invalidate key :: earlier) (.find key) = .ok none) ∧
      ∀ key value n earlier later, n ≤ CacheRequest.ended key earlier →
        .invalidate key ∈ later →
          CacheRequest.told (later ++ earlier) (.fill key value n) = .ok false := by
  have hrepresents : s.Represents {} := by
    refine ⟨rfl, fun id => (hempty id).1, fun id => ?_⟩
    have hzero : "0" = toString 0 := by decide
    rw [(hempty id).2]
    exact hzero
  have hmemory := hrepresents.serve digest hkeys fun key => by
    have hbound := hroom key
    have hnone : ({} : Memory.Cache).generation key = 0 := rfl
    have hmax : maxInt64 = 2 ^ 63 - 1 := by decide
    omega
  refine ⟨hmemory, hmemory.trans (Memory.Cache.remembers_nil.serve _), fun key earlier => ?_,
    fun key value n earlier later hn => CacheRequest.told_fill_of_invalidated hn⟩
  simp only [CacheRequest.told, CacheRequest.kept?, if_true]

/-- A reader fills, but between its two questions the key is declared stale; another reader fills
afterwards. At first the server does not know the script, and later it forgets it once more. -/
def slowFill : List Turn :=
  let key := detailKey (.ofNat 1)
  [⟨[], .generation key⟩, ⟨[], .invalidate key⟩, ⟨[], .fill key "antes" 0⟩,
    ⟨[fillScript], .generation key⟩, ⟨[], .fill key "depois" 1⟩, ⟨[], .find key⟩]

/-- The slow reader finds the generation ended and leaves the text of the other one there. -/
theorem slow_fill_answered_as_memory :
    let served := serve (fun _ => "") slowFill {}
    served = Memory.Cache.serve (slowFill.map (·.request)) {} ∧
      served[2]? = some ⟨.fill (detailKey (.ofNat 1)) "antes" 0, .ok false⟩ ∧
      served[5]? = some ⟨.find (detailKey (.ofNat 1)), .ok (some "depois")⟩ := by
  have hkeys : ∀ t ∈ slowFill, ∃ id, t.request.key = detailKey id := by
    refine fun t ht => ⟨.ofNat 1, ?_⟩
    simp only [slowFill, List.mem_cons, List.not_mem_nil, or_false] at ht
    rcases ht with rfl | rfl | rfl | rfl | rfl | rfl <;> rfl
  have hroom (key : String) : CacheRequest.ended key (slowFill.map (·.request)) < 2 ^ 63 := by
    simp only [slowFill, List.map_cons, List.map_nil, CacheRequest.ended_cons, CacheRequest.ends,
      CacheRequest.ended_nil]
    split <;> decide
  obtain ⟨hmemory, htold, -⟩ :=
    answers_as_memory (fun _ => "") (s := {}) (fun _ => ⟨rfl, rfl⟩) hkeys hroom
  refine ⟨hmemory, ?_, ?_⟩
  · rw [htold]
    simp [slowFill, CacheRequest.account, CacheRequest.told, CacheRequest.ends]
  · rw [htold]
    simp [slowFill, CacheRequest.account, CacheRequest.told, CacheRequest.ends, CacheRequest.kept?]

end Server

end Redis

end Promotions
