import Promotions.Http.Api
import Promotions.Proofs.Histories

/-!
Pages of listings. The promotions that a filter accepts stand in one order only, however the store
keeps them, and a page is a part of that order. Pages that follow one another leave nothing out and
show nothing twice, and the number that is told beside a page is the length of the whole.
-/

namespace Promotions

open Calendar
open Memory (Store Environment hasRoom redeemed redeemNext)

/-! ### The order -/

/-- A promotion comes before another: it has no moment and the other one has, or it has a later one,
or they do not differ in that and its identifier is less. -/
inductive SortKey.Precedes (key : SortKey) (p q : Promotion) : Prop
  | missing (hp : key.moment? p = none) (hq : key.moment? q ≠ none)
  | later {a b : Instant} (hp : key.moment? p = some a) (hq : key.moment? q = some b) (hlt : b < a)
  | tied (hsame : key.moment? p = key.moment? q) (hid : p.id.toNat < q.id.toNat)

namespace SortKey

/-- Precedence is what the places in a listing say, with identifiers between equals. -/
theorem precedes_iff_place (key : SortKey) (p q : Promotion) :
    key.Precedes p q ↔
      match key.place p, key.place q with
      | none, none => p.id.toNat < q.id.toNat
      | none, some _ => True
      | some _, none => False
      | some a, some b => b < a ∨ a = b ∧ p.id.toNat < q.id.toNat := by
  constructor
  · intro h
    cases h with
    | missing hp hq =>
      obtain ⟨b, hb⟩ := Option.ne_none_iff_exists'.mp hq
      simp [place, hp, hb]
    | later hp hq hlt =>
      simp only [place, hp, hq, Option.map_some]
      exact Or.inl hlt
    | tied hsame hid => cases hq : key.moment? q <;> simp [place, hsame, hq, hid]
  · cases hp : key.moment? p with
    | none =>
      cases hq : key.moment? q with
      | none => simpa [place, hp, hq] using .tied (hp.trans hq.symm)
      | some b => exact fun _ => .missing hp (hq ▸ nofun)
    | some a =>
      cases hq : key.moment? q with
      | none => simp [place, hp, hq]
      | some b =>
        simp only [place, hp, hq, Option.map_some]
        rintro (hlt | ⟨hsame, hid⟩)
        · exact .later hp hq hlt
        · obtain rfl := Instant.rank_injective hsame
          exact .tied (hp.trans hq.symm) hid

/-- Of two promotions one precedes the other that comes before it, but not the other way round. -/
theorem precedes_iff (key : SortKey) (p q : Promotion) :
    key.Precedes p q ↔ key.before p q = true ∧ ¬ key.before q p = true := by
  rw [precedes_iff_place, before_iff, before_iff]
  cases key.place p with
  | none =>
    cases key.place q with
    | none =>
      dsimp only
      omega
    | some b => simp
  | some a =>
    cases key.place q with
    | none => simp
    | some b =>
      dsimp only
      omega

instance (key : SortKey) (p q : Promotion) : Decidable (key.Precedes p q) :=
  decidable_of_iff _ (key.precedes_iff p q).symm

/-- No two promotions come before one another. -/
theorem Precedes.asymm {key : SortKey} {p q : Promotion} (h : key.Precedes p q) :
    ¬ key.Precedes q p := by
  intro h'
  exact ((key.precedes_iff p q).mp h).2 ((key.precedes_iff q p).mp h').1

end SortKey

namespace Page

theorem getElem?_cut {α : Type} (page : Page) (xs : List α) (i : Nat) :
    (page.cut xs)[i]? = if i < page.limit then xs[page.offset + i]? else none := by
  rw [cut, List.getElem?_take, List.getElem?_drop]

theorem length_cut {α : Type} (page : Page) (xs : List α) :
    (page.cut xs).length = min page.limit (xs.length - page.offset) := by
  rw [cut, List.length_take, List.length_drop]

/-- A page of a valid length from a valid position. -/
theorem of?_eq {limit offset : Int64} (hlow : 1 ≤ limit) (hhigh : limit ≤ 100)
    (hoffset : 0 ≤ offset) :
    of? (some limit) (some offset) = .ok ⟨limit.toInt.toNat, offset.toInt.toNat⟩ := by
  have hnonneg : ¬ offset < 0 := by
    rw [Int64.lt_iff_toInt_lt]
    rw [Int64.le_iff_toInt_le] at hoffset
    omega
  simp [of?, hlow, hhigh, hnonneg]

end Page

namespace Memory.Store

variable {s s' : Store} {filter : Filter} {key : SortKey} {l l' : List Promotion}

/-! ### One order for every store -/

/-- The promotions of a store that a filter accepts, each before those that it comes before. -/
structure Lists (s : Store) (filter : Filter) (key : SortKey) (l : List Promotion) : Prop where
  same : l.Perm (s.promotions.filter filter.accepts)
  sorted : l.Pairwise key.Precedes

/-- There is one order only in which promotions are listed. -/
theorem Lists.unique (h : s.Lists filter key l) (h' : s.Lists filter key l') : l = l' := by
  apply List.Perm.eq_of_pairwise ?_ h.sorted h'.sorted (h.same.trans h'.same.symm)
  intro p q _ _ hpq hqp
  exact absurd hqp hpq.asymm

/-- How the store keeps its promotions makes no difference to their order. -/
theorem Lists.of_perm (h : s.Lists filter key l) (hsame : s'.promotions.Perm s.promotions) :
    s'.Lists filter key l := by
  constructor
  · exact h.same.trans (hsame.symm.filter _)
  · exact h.sorted

theorem Distinct.of_perm (h : s.Distinct) (hsame : s'.promotions.Perm s.promotions) :
    s'.Distinct :=
  (hsame.map _).nodup_iff.mpr h

/-- What a store lists is in the order. -/
theorem Distinct.lists_listing (h : s.Distinct) (filter : Filter) (key : SortKey) :
    s.Lists filter key (s.listing filter key) := by
  have hperm := List.mergeSort_perm (s.promotions.filter filter.accepts) key.before
  have hsorted := List.pairwise_mergeSort key.before_trans key.before_total
    (s.promotions.filter filter.accepts)
  have hnodup : ((s.promotions.filter filter.accepts).map (·.id)).Nodup :=
    h.sublist (List.filter_sublist.map _)
  have hids : ((s.listing filter key).map (·.id)).Nodup := (hperm.map _).nodup_iff.mpr hnodup
  constructor
  · exact hperm
  · apply (hsorted.and (List.pairwise_map.mp hids)).imp
    rintro p q ⟨hbefore, hne⟩
    rw [key.precedes_iff]
    exact ⟨hbefore, fun hafter => hne (key.id_eq_of_before hbefore hafter)⟩

/-- A listing is the one order of its promotions. -/
theorem Lists.listing_eq (h : s.Lists filter key l) (hdistinct : s.Distinct) :
    s.listing filter key = l :=
  (hdistinct.lists_listing filter key).unique h

theorem Lists.count_eq (h : s.Lists filter key l) : s.count filter = l.length :=
  h.same.length_eq.symm

theorem Lists.mem_iff (h : s.Lists filter key l) (p : Promotion) :
    p ∈ l ↔ p ∈ s.promotions ∧ filter.accepts p = true := by
  rw [h.same.mem_iff, List.mem_filter]

theorem Lists.nodup (h : s.Lists filter key l) : l.Nodup := by
  apply h.sorted.imp
  rintro p _ hpq rfl
  exact hpq.asymm hpq

/-! ### Page after page -/

/-- The pages of a length from a position on, up to the first that is empty. -/
def pagesFrom (s : Store) (filter : Filter) (key : SortKey) (limit offset : Nat) :
    List (List Promotion) :=
  if _h : (s.list filter ⟨limit, offset⟩ key).isEmpty then []
  else s.list filter ⟨limit, offset⟩ key :: s.pagesFrom filter key limit (offset + limit)
termination_by (s.listing filter key).length - offset
decreasing_by
  have hlength := Page.length_cut ⟨limit, offset⟩ (s.listing filter key)
  have hpos : 0 < (s.list filter ⟨limit, offset⟩ key).length := by
    rw [List.length_pos_iff]
    simpa using _h
  rw [list, hlength] at hpos
  dsimp only at hpos
  omega

/-- Pages that follow one another are the listing from their position on. The induction is on the
pages. -/
theorem flatten_pagesFrom (s : Store) (filter : Filter) (key : SortKey) {limit : Nat}
    (hlimit : 0 < limit) (offset : Nat) :
    (s.pagesFrom filter key limit offset).flatten = (s.listing filter key).drop offset := by
  have hlength (offset : Nat) := Page.length_cut ⟨limit, offset⟩ (s.listing filter key)
  dsimp only at hlength
  fun_induction s.pagesFrom filter key limit offset with
  | case1 offset hempty =>
    have hzero : ((⟨limit, offset⟩ : Page).cut (s.listing filter key)).length = 0 :=
      List.length_eq_zero_iff.mpr (List.isEmpty_iff.mp hempty)
    rw [hlength] at hzero
    rw [List.flatten_nil, List.drop_eq_nil_of_le (by omega)]
  | case2 offset hempty ih =>
    rw [List.flatten_cons, ih, ← List.drop_drop]
    exact List.take_append_drop limit _

theorem length_list (s : Store) (filter : Filter) (key : SortKey) (page : Page) :
    (s.list filter page key).length =
      min page.limit ((s.listing filter key).length - page.offset) :=
  Page.length_cut page _

/-- The pages are those from the positions that lie a length apart, as long as there is anything on
them. -/
theorem getElem?_pagesFrom (s : Store) (filter : Filter) (key : SortKey) (limit offset k : Nat) :
    (s.pagesFrom filter key limit offset)[k]? =
      if (s.list filter ⟨limit, offset + k * limit⟩ key).isEmpty then none
      else some (s.list filter ⟨limit, offset + k * limit⟩ key) := by
  fun_induction s.pagesFrom filter key limit offset generalizing k with
  | case1 offset hempty =>
    have hnone : s.list filter ⟨limit, offset + k * limit⟩ key = [] := by
      have hzero := List.length_eq_zero_iff.mpr (List.isEmpty_iff.mp hempty)
      rw [length_list] at hzero
      apply List.length_eq_zero_iff.mp
      rw [length_list]
      dsimp only at hzero ⊢
      omega
    simp [hnone]
  | case2 offset hempty ih =>
    cases k with
    | zero => simp [hempty]
    | succ k =>
      have hoffset : offset + limit + k * limit = offset + (k + 1) * limit := by
        rw [Nat.succ_mul]
        omega
      rw [List.getElem?_cons_succ, ih, hoffset]

/-! ### Where the codes come from -/

/-- Handing out a code changes a count, and neither codes nor limits. -/
theorem map_issued_redeemNext (codes : List CodeCount) :
    (redeemNext codes).map CodeCount.issued = codes.map CodeCount.issued := by
  induction codes with
  | nil => rfl
  | cons c cs ih =>
    unfold redeemNext
    split
    · rfl
    · rw [List.map_cons, List.map_cons, ih]

/-- What a store comes to that starts empty and is asked one request after another, whatever the
gate decides meanwhile. -/
inductive Built : List StoreRequest → Store → Prop
  | empty : Built [] {}
  | asked {rs : List StoreRequest} {e : Environment} (h : Built rs e.store) (r : StoreRequest) :
      Built (rs ++ [r]) (e.answerStore r).2.store

/-- The codes of a promotion are those that it was created with, in their order. -/
def Issued (rs : List StoreRequest) (p : Promotion) : Prop :=
  ∃ createdAt draft codes, .create p.id createdAt draft codes ∈ rs ∧
    p.codes.map CodeCount.issued = codes

/-- A promotion keeps the codes that it was created with in all later requests. -/
theorem Issued.asked {rs : List StoreRequest} {p q : Promotion} (h : Issued rs p)
    (hid : q.id = p.id) (hcodes : q.codes.map CodeCount.issued = p.codes.map CodeCount.issued)
    (r : StoreRequest) : Issued (rs ++ [r]) q := by
  obtain ⟨createdAt, draft, codes, hmem, rfl⟩ := h
  refine ⟨createdAt, draft, _, ?_, hcodes⟩
  rw [hid]
  exact List.mem_append_left _ hmem

namespace Built

variable {rs : List StoreRequest}

/-- Whatever was asked, identifiers are unique in the store. -/
theorem distinct (h : Built rs s) : s.Distinct := by
  induction h with
  | empty => exact List.nodup_nil
  | @asked rs e h r ih =>
    cases r with
    | create id createdAt draft codes =>
      simp only [Environment.answerStore]
      split
      · exact ih
      · exact ih.insert _
    | find id => exact ih
    | list filter page key => exact ih
    | count filter => exact ih
    | update id company content => exact ih.update id company content
    | delete id company => exact ih.delete id company
    | activate id =>
      exact ih.activate (fun id code (g : ScriptedGate) => g.decide id code) id e.gate

/-- Whatever was asked, codes are those of the request that created their promotion. -/
theorem issued (h : Built rs s) : ∀ p ∈ s.promotions, Issued rs p := by
  induction h with
  | empty => exact List.forall_mem_nil _
  | @asked rs e h r ih =>
    have hkept (p : Promotion) (hp : p ∈ e.store.promotions) : Issued (rs ++ [r]) p :=
      (ih p hp).asked rfl rfl r
    have hmodify (id : Uuid) {change : Promotion → Promotion} (hid : ∀ p, (change p).id = p.id)
        (hcodes : ∀ p, (change p).codes.map CodeCount.issued = p.codes.map CodeCount.issued) :
        ∀ p ∈ (e.store.modify id change).promotions, Issued (rs ++ [r]) p := by
      intro p hp
      obtain ⟨q, hq, rfl⟩ := List.mem_map.mp hp
      split
      · exact (ih q hq).asked (hid q) (hcodes q) r
      · exact hkept q hq
    cases r with
    | create id createdAt draft codes =>
      simp only [Environment.answerStore]
      split
      · exact hkept
      · intro p hp
        rcases List.mem_append.mp hp with hold | hnew
        · exact hkept p (List.mem_filter.mp hold).1
        · obtain rfl := List.mem_singleton.mp hnew
          refine ⟨createdAt, draft, codes, ?_, draft.issued_promotion id createdAt codes⟩
          exact List.mem_append_right _ List.mem_cons_self
    | find id => exact hkept
    | list filter page key => exact hkept
    | count filter => exact hkept
    | update id company content =>
      simp only [Environment.answerStore, update]
      split
      · exact hkept
      · exact hmodify id (fun _ => rfl) fun _ => rfl
    | delete id company =>
      simp only [Environment.answerStore, delete]
      split
      · exact hkept
      · exact fun p hp => hkept p (List.mem_filter.mp hp).1
    | activate id =>
      simp only [Environment.answerStore, activate]
      split
      · exact hkept
      · split
        · exact hkept
        · split
          · exact hkept
          · exact hmodify id (fun _ => rfl) fun p => map_issued_redeemNext p.codes

end Built

end Memory.Store

/-! ### What a caller is shown -/

namespace Memory.Environment

variable {company : Uuid} {ps : List Promotion}

/-- With a name that is known already the directory is not asked. -/
theorem perform_named_of_known (h : ∀ p ∈ ps, p.companyId = company)
    {known : List (Uuid × String)} {name : String} (hknown : known.lookup company = some name)
    (e : Environment) :
    e.perform (Service.named known ps) = (.ok (ps.map (·.detail name)), e) := by
  induction ps with
  | nil => rfl
  | cons p ps ih =>
    obtain ⟨hp, hps⟩ := List.forall_mem_cons.mp h
    simp only [Service.named, hp, hknown]
    rw [perform_bind, ih hps]
    rfl

/-- Promotions of one company are shown with its name, which the directory is asked for if there are
any. -/
theorem perform_named (h : ∀ p ∈ ps, p.companyId = company) (e : Environment) :
    (e.perform (Service.named [] ps)).1 =
      (if ps = [] then .ok []
        else (e.directory.name company).map fun name => ps.map (·.detail name)) ∧
      (e.perform (Service.named [] ps)).2.store = e.store := by
  cases ps with
  | nil => exact ⟨rfl, rfl⟩
  | cons p ps =>
    obtain ⟨rfl, hps⟩ := List.forall_mem_cons.mp h
    rw [if_neg (List.cons_ne_nil p ps)]
    have hasked : e.perform (Action.companyName p.companyId) =
        (e.directory.name p.companyId, { e with tally.names := e.tally.names + 1 }) := rfl
    simp only [Service.named, List.lookup_nil]
    rw [perform_bind, hasked]
    cases e.directory.name p.companyId with
    | error f => exact ⟨rfl, rfl⟩
    | ok name =>
      have hknown : [(p.companyId, name)].lookup p.companyId = some name := by simp
      dsimp only
      rw [perform_bind, perform_named_of_known hps hknown]
      exact ⟨rfl, rfl⟩

/-- The response to a request for a page of a listing. -/
theorem perform_list {r : Http.Request} {query : Http.ListQuery} {page : Page}
    (hcaller : Http.callerOrRefusal r = .ok company) (hquery : Http.listQuery r = .ok query)
    (hpage : Page.of? query.limit query.offset = .ok page) (e : Environment) :
    let filter := Filter.of company query.countryList
    let shown := e.store.list filter page (.ofParameter query.sortBy)
    (e.perform (Http.list r)).1 =
      match if shown = [] then .ok [] else (e.directory.name company).map fun name =>
        shown.map (·.detail name) with
      | .error f => .ofFailure f
      | .ok details => { Http.Response.ofJson 200 (.array (details.map Detail.toJson)) with
          totalCount := some (e.store.count filter) } := by
  intro filter shown
  have hcompany : ∀ p ∈ shown, p.companyId = company := by
    intro p hp
    have hlisted : p ∈ e.store.listing filter (.ofParameter query.sortBy) :=
      List.mem_of_mem_drop (List.mem_of_mem_take hp)
    exact Filter.companyId_of_accepts (Store.mem_listing.mp hlisted).2
  obtain ⟨hnamed, hstore⟩ := perform_named hcompany e
  have hlisted : e.perform (Service.list company query.countryList page
      (.ofParameter query.sortBy)) = e.perform (Service.named [] shown) := rfl
  rw [← hnamed]
  simp only [Http.list, hcaller, hquery, hpage, Except.mapError, Http.understood]
  rw [perform_bind, hlisted]
  cases (e.perform (Service.named [] shown)).1 with
  | error f => rfl
  | ok details =>
    dsimp only
    rw [← hstore]
    rfl

/-! ### Pages of one order -/

/-- What callers see of the promotions that a filter accepts, in the order of a listing. -/
structure Paged (e : Environment) (filter : Filter) (key : SortKey) (l : List Promotion) :
    Prop where
  /-- Every one of them is there once. -/
  once : l.Nodup ∧ ∀ p, p ∈ l ↔ p ∈ e.store.promotions ∧ filter.accepts p = true
  /-- A store that keeps its promotions in another order lists the same. -/
  reordered : ∀ s : Store, s.promotions.Perm e.store.promotions →
    s.Lists filter key l ∧ s.count filter = e.store.count filter ∧
      ∀ page, s.list filter page key = e.store.list filter page key
  /-- A page of a valid length from a valid position shows what stands there. -/
  page : ∀ limit offset : Int64, 1 ≤ limit → limit ≤ 100 → 0 ≤ offset →
    ∃ page, Page.of? (some limit) (some offset) = .ok page ∧
      ∀ i, (e.store.list filter page key)[i]? =
        if i < limit.toInt.toNat then l[offset.toInt.toNat + i]? else none
  /-- Promotions are shown as the store has them, with what is redeemed of their codes. -/
  current : ∀ p ∈ l, e.store.find? p.id = some p
  /-- Their codes are those that they were created with, in their order. -/
  issued : ∀ rs, Store.Built rs e.store → ∀ p ∈ l, Store.Issued rs p
  count : (e.answerStore (.count filter)).1 = .ok (l.length : Int)
  /-- Page after page, each is shown once. -/
  tiled : ∀ limit, 0 < limit → (e.store.pagesFrom filter key limit 0).flatten = l ∧
    ∀ k, (e.store.pagesFrom filter key limit 0)[k]? =
      if (e.store.list filter ⟨limit, k * limit⟩ key).isEmpty then none
      else some (e.store.list filter ⟨limit, k * limit⟩ key)
  /-- The response to a request for a page shows it, and tells how long the whole is. -/
  shown : ∀ (r : Http.Request) (company : Uuid) (query : Http.ListQuery) (page : Page),
    Http.Route.ofPath? r.path = some .promotions → r.method = "GET" →
    Http.callerOrRefusal r = .ok company → Http.listQuery r = .ok query →
    Page.of? query.limit query.offset = .ok page → filter = .of company query.countryList →
    key = .ofParameter query.sortBy →
      (∀ name, e.directory.name company = .ok name → (e.perform (Http.respond r)).1 =
        { Http.Response.ofJson 200 (.array ((page.cut l).map fun p => (p.detail name).toJson)) with
          totalCount := some l.length }) ∧
      ((e.perform (Http.respond r)).1.status = 200 →
        (e.perform (Http.respond r)).1.totalCount = some (l.length : Int))

section

variable {e : Environment} {filter : Filter} {key : SortKey} {l : List Promotion}

/-- The response to a request for a page is told by its listing, and by the name of the company. -/
theorem shown_of_lists (h : e.store.Distinct) (hl : e.store.Lists filter key l) {r : Http.Request}
    {query : Http.ListQuery} {page : Page} (hroute : Http.Route.ofPath? r.path = some .promotions)
    (hmethod : r.method = "GET") (hcaller : Http.callerOrRefusal r = .ok company)
    (hquery : Http.listQuery r = .ok query)
    (hpage : Page.of? query.limit query.offset = .ok page)
    (hfilter : filter = .of company query.countryList) (hkey : key = .ofParameter query.sortBy) :
    (∀ name, e.directory.name company = .ok name → (e.perform (Http.respond r)).1 =
      { Http.Response.ofJson 200 (.array ((page.cut l).map fun p => (p.detail name).toJson)) with
        totalCount := some l.length }) ∧
    ((e.perform (Http.respond r)).1.status = 200 →
      (e.perform (Http.respond r)).1.totalCount = some (l.length : Int)) := by
  have hrespond : Http.respond r = Http.list r := by
    simp [Http.respond, hroute, hmethod, Http.Route.methods, Http.serve]
  have hresponse := e.perform_list hcaller hquery hpage
  dsimp only at hresponse
  rw [← hfilter, ← hkey, hl.count_eq, Store.list, hl.listing_eq h] at hresponse
  rw [hrespond, hresponse]
  constructor
  · intro name hname
    rw [hname]
    by_cases hnone : page.cut l = []
    · rw [if_pos hnone, hnone]
      rfl
    · rw [if_neg hnone]
      simp only [Except.map, List.map_map]
      rfl
  · split
    · rename_i f _
      exact fun hok => absurd hok f.status_ne_ok
    · exact fun _ => rfl

/-- The listing of promotions with identifiers of their own is what callers see page by page. -/
theorem paged_listing (h : e.store.Distinct) (filter : Filter) (key : SortKey) :
    Paged e filter key (e.store.listing filter key) := by
  have hl := h.lists_listing filter key
  exact {
    once := ⟨hl.nodup, hl.mem_iff⟩
    reordered := by
      intro s hsame
      have hs := hl.of_perm hsame
      refine ⟨hs, hs.count_eq.trans hl.count_eq.symm, fun page => ?_⟩
      rw [Store.list, Store.list, hs.listing_eq (h.of_perm hsame)]
    page := fun limit offset hlow hhigh hoffset =>
      ⟨_, Page.of?_eq hlow hhigh hoffset, Page.getElem?_cut _ _⟩
    current := fun p hp => h.find?_eq_some_iff.mpr ⟨((hl.mem_iff p).mp hp).1, rfl⟩
    issued := fun rs hbuilt p hp => hbuilt.issued p ((hl.mem_iff p).mp hp).1
    count := by
      rw [← hl.count_eq]
      rfl
    tiled := by
      intro limit hlimit
      constructor
      · rw [Store.flatten_pagesFrom _ _ _ hlimit, List.drop_zero]
      · intro k
        rw [Store.getElem?_pagesFrom, Nat.zero_add]
    shown := fun r company query page hroute hmethod hcaller hquery hpage hfilter hkey =>
      shown_of_lists h hl hroute hmethod hcaller hquery hpage hfilter hkey }

/-- Whatever the requests were that a store has been built by, its listing is what callers see page
by page. -/
theorem paged_of_built {rs : List StoreRequest} (h : Store.Built rs e.store) (filter : Filter)
    (key : SortKey) : Paged e filter key (e.store.listing filter key) :=
  paged_listing h.distinct filter key

end

/-- The promotions that a filter accepts stand in one order only, and pages are parts of it: they
show what stands from their position on, those that follow one another show everything once, and the
number told is the length of the whole. -/
theorem pages_tile_one_order {e : Environment} (h : e.store.Distinct) (filter : Filter)
    (key : SortKey) : ∃ l, e.store.Lists filter key l ∧
      (∀ l', e.store.Lists filter key l' → l' = l) ∧ Paged e filter key l := by
  have hl := h.lists_listing filter key
  exact ⟨_, hl, fun l' hl' => hl'.unique hl, paged_listing h filter key⟩

def offer (n : Nat) (start : Option Instant) : Promotion where
  id := Supply.idAt n
  companyId := Supply.idAt 7
  mode := .common
  content := ⟨"Dez por cento", none, {}, start, none⟩
  createdAt := Supply.timeAt n
  codes := [⟨"SOLE", 0, 1⟩]

/-- The bakery with four promotions, two of which start together and one at no time. -/
def shelf : Environment :=
  { bakery with
    store := ⟨[offer 3 (some (Supply.timeAt 5)), offer 1 (some (Supply.timeAt 9)), offer 4 none,
      offer 2 (some (Supply.timeAt 5))]⟩ }

/-- Later starts come first, and those without a start before them; identifiers decide between equal
ones. -/
theorem shelf_in_pages :
    Paged shelf ⟨Supply.idAt 7, []⟩ .activeFrom
      [offer 4 none, offer 1 (some (Supply.timeAt 9)), offer 2 (some (Supply.timeAt 5)),
        offer 3 (some (Supply.timeAt 5))] := by
  have hdistinct : shelf.store.Distinct := by
    unfold Store.Distinct
    decide +kernel
  obtain ⟨l, -, hunique, hpaged⟩ :=
    pages_tile_one_order hdistinct ⟨Supply.idAt 7, []⟩ .activeFrom
  have hlists : shelf.store.Lists ⟨Supply.idAt 7, []⟩ .activeFrom
      [offer 4 none, offer 1 (some (Supply.timeAt 9)), offer 2 (some (Supply.timeAt 5)),
        offer 3 (some (Supply.timeAt 5))] := by
    constructor
    · decide +kernel
    · decide +kernel
  rw [hunique _ hlists]
  exact hpaged

end Memory.Environment

end Promotions
