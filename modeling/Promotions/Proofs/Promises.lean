import Promotions.Proofs.Coherence
import Promotions.Proofs.Listings
import Promotions.Proofs.Terms

/-!
What calls promise. Suppose that all promotions that a call is answered with are vouched for, in
whatever sense: by the store, and by the cache as texts. Then what the call puts into the cache is
the text of a promotion that is vouched for too, and so are the promotions that it returns, which
moreover belong to the company that has asked. While it copies promotions their counts may change,
but what they say apart from their counts does not.
-/

namespace Promotions

/-! ### Dialogues that keep what they promise -/

namespace Dialogue

variable {Ask : Type} {Answer : Ask → Type} {α β : Type}

/-- As long as the answers are as supposed, the questions are as promised, and so is the end. -/
def Keeps (supposed : (q : Ask) → Answer q → Prop) (promised : Ask → Prop) (E : α → Prop) :
    Dialogue Ask Answer α → Prop
  | done a => E a
  | ask q next => promised q ∧ ∀ r, supposed q r → (next r).Keeps supposed promised E

theorem Keeps.imp {supposed : (q : Ask) → Answer q → Prop} {promised : Ask → Prop} {E F : α → Prop}
    {d : Dialogue Ask Answer α} (hd : d.Keeps supposed promised E) (h : ∀ a, E a → F a) :
    d.Keeps supposed promised F := by
  induction d with
  | done a => exact h a hd
  | ask q next ih => exact ⟨hd.1, fun r hr => ih r (hd.2 r hr)⟩

/-- Promises are kept in sequence: what the first dialogue ends with is what the second one begins
with. -/
theorem Keeps.bind {supposed : (q : Ask) → Answer q → Prop} {promised : Ask → Prop} {E : α → Prop}
    {F : β → Prop} {d : Dialogue Ask Answer α} {k : α → Dialogue Ask Answer β}
    (hd : d.Keeps supposed promised E) (hk : ∀ a, E a → (k a).Keeps supposed promised F) :
    (d >>= k).Keeps supposed promised F := by
  induction d with
  | done a => exact hk a hd
  | ask q next ih => exact ⟨hd.1, fun r hr => ih r (hd.2 r hr)⟩

end Dialogue

section Contracts

/-! Promotions that are vouched for: what an operation is answered with is, and then so is what it
puts into the cache and what it returns. -/

variable (V : Promotion → Prop)

/-- What the service may suppose of an answer: promotions are vouched for, and they are the ones
that it has asked for. -/
def Ask.Supposes : (q : Ask) → q.Answer → Prop
  | .store (.find id), .ok (some p) => V p ∧ p.id = id
  | .store (.list filter _ _), .ok ps => ∀ p ∈ ps, V p ∧ p.companyId = filter.companyId
  | .cache (.find key), .ok (some text) => ∃ p, text = p.print ∧ V p ∧ key = detailKey p.id
  | _, _ => True

/-- What the service promises in return: a text that it puts into the cache is the one of a
promotion that is vouched for, under the key of that promotion. -/
def Ask.Promises : Ask → Prop
  | .cache (.fill key value _) => ∃ p, value = p.print ∧ V p ∧ key = detailKey p.id
  | _ => True

/-- What the service promises of a result: promotions in it are vouched for, and they belong to the
company that has asked. -/
def Operation.Yields : (o : Operation) → o.Result → Prop
  | .get id company, .ok d => V d.promotion ∧ d.promotion.id = id ∧ d.promotion.companyId = company
  | .list company _ _ _, .ok ds => ∀ d ∈ ds, V d.promotion ∧ d.promotion.companyId = company
  | _, _ => True

variable {V}

namespace Service

/-- A listing shows promotions that are vouched for if it is given such ones, and asks nothing that
needs a promise. -/
theorem named_keeps {company : Uuid} (ps : List Promotion) (known : List (Uuid × String))
    (hps : ∀ p ∈ ps, V p ∧ p.companyId = company) :
    (named known ps).Keeps (Ask.Supposes V) (Ask.Promises V) fun r =>
      ∀ ds, r = .ok ds → ∀ d ∈ ds, V d.promotion ∧ d.promotion.companyId = company := by
  induction ps generalizing known with
  | nil =>
    rintro ds ⟨⟩ d hd
    cases hd
  | cons p ps ih =>
    have hbehind (name : String) (known : List (Uuid × String)) :
        (namedBehind p name known ps).Keeps (Ask.Supposes V) (Ask.Promises V) fun r =>
          ∀ ds, r = .ok ds → ∀ d ∈ ds, V d.promotion ∧ d.promotion.companyId = company :=
      (ih known fun q hq => hps q (List.mem_cons_of_mem _ hq)).bind fun _ hrest =>
        forall_of_shown_cons (hps p List.mem_cons_self) hrest
    cases hlookup : known.lookup p.companyId with
    | some name =>
      rw [named_cons_of_known hlookup]
      exact hbehind ..
    | none =>
      rw [named_cons_of_new hlookup]
      refine ⟨trivial, fun name _ => ?_⟩
      cases name with
      | error f => rintro ds ⟨⟩
      | ok name => exact hbehind ..

/-- A reader fills with the text of the promotion that it was given, and with no other. -/
theorem keep_keeps (id : Uuid) (generation : Except Failure Nat)
    (answer : Except Failure (Option Promotion))
    (hanswer : ∀ p, answer = .ok (some p) → V p ∧ p.id = id) :
    (keep id generation answer).Keeps (Ask.Supposes V) (Ask.Promises V) fun r =>
      ∀ p, r = .ok p → V p ∧ p.id = id := by
  cases answer with
  | error f => rintro p ⟨⟩
  | ok found =>
    cases found with
    | none => rintro p ⟨⟩
    | some p =>
      obtain ⟨hp, hid⟩ := hanswer p rfl
      cases generation with
      | error f =>
        rintro q ⟨⟩
        exact ⟨hp, hid⟩
      | ok g =>
        refine ⟨⟨p, rfl, hp, hid ▸ rfl⟩, fun _ _ => ?_⟩
        rintro q ⟨⟩
        exact ⟨hp, hid⟩

/-- A promotion that is loaded is vouched for and is the one that was asked for, whether it comes
from the cache or from the store. -/
theorem load_keeps (id : Uuid) :
    (load id).Keeps (Ask.Supposes V) (Ask.Promises V) fun r =>
      ∀ p, r = .ok p → V p ∧ p.id = id := by
  have hstored : (loadStored id).Keeps (Ask.Supposes V) (Ask.Promises V) fun r =>
      ∀ p, r = .ok p → V p ∧ p.id = id := by
    rw [loadStored_eq]
    refine ⟨trivial, fun generation _ => ⟨trivial, fun answer hanswer => ?_⟩⟩
    refine keep_keeps id generation answer fun p hp => ?_
    subst hp
    exact hanswer
  rw [load_eq]
  refine ⟨trivial, fun answer hanswer => ?_⟩
  cases hcached : cached answer with
  | none => simpa only [proceed, hcached] using hstored
  | some q =>
    simp only [proceed, hcached]
    rintro p ⟨⟩
    -- A text that is read back is the one of the promotion that was printed.
    cases answer with
    | error f => cases hcached
    | ok found =>
      cases found with
      | none => cases hcached
      | some text =>
        obtain ⟨p, rfl, hp, hkey⟩ := hanswer
        rw [cached, Promotion.parse_print] at hcached
        obtain rfl := Option.some.inj hcached
        exact ⟨hp, (detailKey_injective hkey).symm⟩

/-- A reader is shown a promotion only if its company owns it. -/
theorem reply_keeps (id company : Uuid) (r : Except Failure Promotion)
    (hr : ∀ p, r = .ok p → V p ∧ p.id = id) :
    (reply company r).Keeps (Ask.Supposes V) (Ask.Promises V)
      (Operation.Yields V (.get id company)) := by
  cases r with
  | error f => trivial
  | ok p =>
    obtain ⟨hp, hid⟩ := hr p rfl
    simp only [reply]
    split
    · rename_i howner
      refine ⟨trivial, fun name _ => ?_⟩
      cases name with
      | error f => trivial
      | ok name => exact ⟨hp, hid, howner⟩
    · trivial

/-- Declaring a text stale promises nothing. -/
theorem settle_keeps {α : Type} {E : Except Failure α → Prop} (id : Uuid)
    (answer : Except Failure α) (hanswer : E answer) :
    (settle id answer).Keeps (Ask.Supposes V) (Ask.Promises V) E := by
  cases answer with
  | error f => exact hanswer
  | ok a => exact ⟨trivial, fun _ _ => hanswer⟩

end Service

/-- Every operation keeps its promises. -/
theorem Operation.action_keeps (o : Operation) :
    o.action.Keeps (Ask.Supposes V) (Ask.Promises V) (o.Yields V) := by
  cases o with
  | create company r =>
    simp only [action, Service.create]
    cases r.draft company with
    | error v => trivial
    | ok d => exact ⟨trivial, fun minted _ => ⟨trivial, fun stored _ => trivial⟩⟩
  | list company countries page key =>
    refine ⟨trivial, fun answer hanswer => ?_⟩
    cases answer with
    | error f => trivial
    | ok ps =>
      refine (Service.named_keeps ps [] hanswer).imp fun r hr => ?_
      cases r with
      | error f => trivial
      | ok ds => exact hr ds rfl
  | count company countries => exact ⟨trivial, fun _ _ => trivial⟩
  | get id company =>
    rw [action, Service.get_eq]
    exact (Service.load_keeps id).bind fun r hr => Service.reply_keeps id company r hr
  | update id company r =>
    simp only [action, Service.update]
    cases r.changes with
    | error v => trivial
    | ok content => exact ⟨trivial, fun answer _ => Service.settle_keeps id answer trivial⟩
  | delete id company => exact ⟨trivial, fun answer _ => Service.settle_keeps id answer trivial⟩
  | activate id => exact ⟨trivial, fun answer _ => Service.settle_keeps id answer trivial⟩

end Contracts

namespace Memory

/-! ### Promotions that are being copied -/

def Copy.completed (w : World) : Copy → List Promotion
  | reading done todo => done ++ todo.map w.filled
  | holding done p r left rest => done ++ w.filled ⟨p, r :: left⟩ :: rest.map w.filled

/-- What a copy is to give stays the same while it is made. -/
theorem Copy.completed_of_steps {caller : Nat} {w w' : World} {c c' : Copy}
    (hs : Copy.Steps caller w c c' w') : c'.completed w' = c.completed w := by
  have hfilled (w : World) (r i : Nat) :
      (w.hold r i).filled = w.filled ∧ (w.release r).filled = w.filled := by
    constructor <;>
    · funext pool
      simp only [World.filled, Promotion.mk.injEq, true_and]
      congr 1
      exact List.filterMap_congr fun x _ => by simp
  cases hs with
  | copied => simp [completed, World.filled]
  | took _ => simp [completed, (hfilled _ _ _).1]
  | @read done p r left rest =>
    simp only [completed, (hfilled w r 0).2, List.map_cons]
    cases hr : w.count? r <;> simp [World.filled, hr]

/-- What a copy is to give stays the same, but for the counts. -/
theorem Copy.terms_completed {w w' : World} (hg : w.Grows w') {c : Copy}
    (hrows : ∀ r ∈ c.rows, r < w.rows.length) :
    (c.completed w').map Promotion.terms = (c.completed w).map Promotion.terms := by
  have hall (todo : List Pool) (htodo : ∀ r ∈ todo.flatMap (·.rows), r < w.rows.length) :
      (todo.map w'.filled).map Promotion.terms = (todo.map w.filled).map Promotion.terms := by
    simp only [List.map_map]
    refine List.map_congr_left fun pool hpool => hg.terms_filled fun r hr => ?_
    exact htodo r (List.mem_flatMap.mpr ⟨pool, hpool, hr⟩)
  cases c with
  | reading done todo =>
    simp only [completed, List.map_append]
    rw [hall todo hrows]
  | holding done p r left rest =>
    have hsplit : ∀ x ∈ (r :: left) ++ rest.flatMap (·.rows), x < w.rows.length := hrows
    rw [List.forall_mem_append] at hsplit
    have hfirst : (w'.filled ⟨p, r :: left⟩).terms = (w.filled ⟨p, r :: left⟩).terms :=
      hg.terms_filled hsplit.1
    simp only [completed, List.map_append, List.map_cons]
    rw [hall rest hsplit.2, hfirst]

/-! ### Calls that keep what they promise -/

/-- Every text in the cache is the one of a promotion that is vouched for, under its key. -/
def Cache.Vouched (V : Promotion → Prop) (c : Cache) : Prop :=
  ∀ key text, c.find? key = some text → ∃ p, text = p.print ∧ V p ∧ key = detailKey p.id

theorem Cache.answer_find (key : String) (c : Cache) :
    (Cache.answer (.find key) c).1 =
      if c.failing then .error (refused "GET") else .ok (c.find? key) := by
  simp only [answer]
  split <;> rfl

/-- What is found in a cache that is vouched for is as the service supposes. -/
theorem Cache.Vouched.supposes_find {V : Promotion → Prop} {c : Cache} (h : c.Vouched V)
    (key : String) : Ask.Supposes V (.cache (.find key)) (Cache.answer (.find key) c).1 := by
  rw [Cache.answer_find]
  cases c.failing with
  | true => trivial
  | false =>
    cases hfind : c.find? key with
    | none => trivial
    | some text => exact h key text hfind

/-- A call keeps its promises from here on. While it copies promotions it will go on with what they
are then, which may count otherwise than now. -/
def Stage.Keeps {α : Type} (V : Promotion → Prop) (E : α → Prop) (w : World) : Stage α → Prop
  | asking d => d.Keeps (Ask.Supposes V) (Ask.Promises V) E
  | activating _ _ next => ∀ a, (next a).Keeps (Ask.Supposes V) (Ask.Promises V) E
  | copying c next => ∀ ps : List Promotion,
      ps.map Promotion.terms = (c.completed w).map Promotion.terms →
        (next ps).Keeps (Ask.Supposes V) (Ask.Promises V) E
  | abandoned => True

namespace Stage.Keeps

variable {α : Type} {V : Promotion → Prop} {E : α → Prop} {w w' : World} {st st' : Stage α}

/-- The promises of a call outlast steps of others, which leave rows and their codes. -/
theorem mono (h : st.Keeps V E w) (hg : w.Grows w') (hrows : ∀ r ∈ st.rows, r < w.rows.length) :
    st.Keeps V E w' := by
  cases st with
  | copying c next =>
    intro ps hps
    exact h ps (hps.trans (Copy.terms_completed hg hrows))
  | asking d | activating id p next | abandoned => exact h

/-- What a call is about to ask is as it has promised. -/
theorem promises (h : st.Keeps V E w) {q : Ask} {next : q.Answer → Action α}
    (hst : st = .asking (.ask q next)) : q.Promises V := by
  subst hst
  exact h.1

/-- A list that says the same as another one, promotion by promotion. -/
theorem exists_of_terms_eq {ps qs : List Promotion}
    (h : ps.map Promotion.terms = qs.map Promotion.terms) :
    ∀ p ∈ ps, ∃ q ∈ qs, q.terms = p.terms := by
  intro p hp
  have hmem : p.terms ∈ qs.map Promotion.terms := h ▸ List.mem_map_of_mem hp
  exact List.mem_map.mp hmem

/-- A step of a call, when the store has promotions that are vouched for and so has the cache. What
is vouched for does not depend on counts. -/
theorem of_steps {ch : Choice} {caller : Nat} {s s' : Shared} {note : Option Note}
    (hV : ∀ p q : Promotion, p.terms = q.terms → V p → V q) (h : st.Keeps V E s.world)
    (hstore : s.world.All V) (hcache : s.cache.Vouched V)
    (hs : Stage.Steps ch caller s st st' s' note) : st'.Keeps V E s'.world := by
  cases hs with
  | asked =>
    rename_i q next
    obtain ⟨-, hnext⟩ := h
    match q with
    | .mint | .companyName _ | .store (.count _) | .store (.update _ _ _)
    | .store (.delete _ _) => exact hnext _ trivial
    | .cache (.generation _) | .cache (.fill _ _ _) | .cache (.invalidate _) =>
      exact hnext _ trivial
    | .cache (.find key) => exact hnext _ (hcache.supposes_find key)
    | .store (.create _ _ _ _) =>
      simp only [ask]
      split <;> exact hnext _ trivial
    | .store (.find id) =>
      simp only [ask]
      cases hpool : s.world.pool? id with
      | none => exact hnext _ trivial
      | some pool =>
        obtain ⟨hmem, hid⟩ := World.mem_of_pool? hpool
        intro ps hps
        refine hnext _ ?_
        cases ps with
        | nil => trivial
        | cons p ps =>
          obtain ⟨q, hq, hterms⟩ := exists_of_terms_eq hps p List.mem_cons_self
          obtain rfl : q = s.world.present pool := by
            simpa [Copy.completed, World.filled_blank] using hq
          refine ⟨hV _ p hterms (hstore.present hmem), ?_⟩
          rw [← (Promotion.terms_eq_iff.mp hterms).1]
          exact hid
    | .store (.list filter page key) =>
      intro ps hps
      refine hnext _ fun p hp => ?_
      obtain ⟨q, hq, hterms⟩ := exists_of_terms_eq hps p hp
      obtain ⟨pool, hpool, rfl⟩ : ∃ pool ∈ s.world.listing filter page key,
          s.world.present pool = q := by
        simp only [Copy.completed, List.nil_append, List.map_map, List.mem_map] at hq
        exact hq
      obtain ⟨hmem, haccepts⟩ := World.mem_pools_of_mem_listing hpool
      refine ⟨hV _ p hterms (hstore.present hmem), ?_⟩
      rw [← (Promotion.terms_eq_iff.mp hterms).2.1]
      exact Filter.companyId_of_accepts haccepts
    | .store (.activate id) => exact fun a => hnext a trivial
  | activated _ => exact h _
  | activates _ => exact h
  | copied hresult =>
    obtain rfl := Copy.eq_reading_of_result? hresult
    exact h _ (by simp [Copy.completed])
  | copies hc =>
    intro ps hps
    exact h ps (hps.trans (by rw [Copy.completed_of_steps hc]))

end Stage.Keeps

end Memory

end Promotions
