import Promotions.Memory.Environment
import Promotions.Proofs.Questions
import Promotions.Proofs.Transcripts

/-!
A listing remembers the names of companies that it has found out. Nobody can tell from what it
shows: it is what looking up the name for every promotion by itself would show, as long as the
directory answers the same for the same company. What differs is what the directory is asked, which
is once for every company, in the order in which they come first, up to the first one whose name it
does not tell.
-/

namespace Promotions

/-! ### Names looked up one by one -/

section

variable (names : Uuid → Except Failure String)

/-- Promotions with the names of their companies, each looked up by itself. -/
def detailsOf (ps : List Promotion) : Except Failure (List Detail) :=
  ps.mapM fun p => (names p.companyId).map p.detail

def upToFailure : List Uuid → List Uuid
  | [] => []
  | c :: cs =>
    match names c with
    | .ok _ => c :: upToFailure cs
    | .error _ => [c]

def lookups (cs : List Uuid) : List ((q : Ask) × q.Answer) :=
  cs.map fun c => ⟨.companyName c, names c⟩

variable {names} {p : Promotion} {ps : List Promotion}

theorem detailsOf_cons_of_ok {name : String} (h : names p.companyId = .ok name) :
    detailsOf names (p :: ps) = (detailsOf names ps).map (p.detail name :: ·) := by
  rw [detailsOf, List.mapM_cons, h, ← detailsOf]
  cases detailsOf names ps <;> rfl

theorem detailsOf_cons_of_error {f : Failure} (h : names p.companyId = .error f) :
    detailsOf names (p :: ps) = .error f := by
  rw [detailsOf, List.mapM_cons, h]
  rfl

/-- Promotions whose companies have names are shown with these names. -/
theorem detailsOf_of_resolved {name : Uuid → String}
    (h : ∀ p ∈ ps, names p.companyId = .ok (name p.companyId)) :
    detailsOf names ps = .ok (ps.map fun p => p.detail (name p.companyId)) := by
  induction ps with
  | nil => rfl
  | cons p ps ih =>
    obtain ⟨hp, hps⟩ := List.forall_mem_cons.mp h
    rw [detailsOf_cons_of_ok hp, ih hps]
    rfl

/-- The first company without a name decides what becomes of all promotions. -/
theorem detailsOf_of_failure {before after : List Promotion} {f : Failure}
    (hbefore : ∀ q ∈ before, ∃ name, names q.companyId = .ok name)
    (hp : names p.companyId = .error f) : detailsOf names (before ++ p :: after) = .error f := by
  induction before with
  | nil => exact detailsOf_cons_of_error hp
  | cons q before ih =>
    obtain ⟨⟨name, hq⟩, hrest⟩ := List.forall_mem_cons.mp hbefore
    rw [List.cons_append, detailsOf_cons_of_ok hq, ih hrest]
    rfl

theorem upToFailure_of_resolved {cs : List Uuid} (h : ∀ c ∈ cs, ∃ name, names c = .ok name) :
    upToFailure names cs = cs := by
  induction cs with
  | nil => rfl
  | cons c cs ih =>
    obtain ⟨⟨name, hc⟩, hcs⟩ := List.forall_mem_cons.mp h
    simp only [upToFailure, hc, ih hcs]

/-- Companies are asked for up to the first one without a name, and not beyond it. -/
theorem upToFailure_of_failure {before after : List Uuid} {c : Uuid} {f : Failure}
    (hbefore : ∀ d ∈ before, ∃ name, names d = .ok name) (hc : names c = .error f) :
    upToFailure names (before ++ c :: after) = before ++ [c] := by
  induction before with
  | nil => simp only [List.nil_append, upToFailure, hc]
  | cons d before ih =>
    obtain ⟨⟨name, hd⟩, hrest⟩ := List.forall_mem_cons.mp hbefore
    simp only [List.cons_append, upToFailure, hd, ih hrest]

/-! ### Names that are remembered -/

/-- The companies whose names are not known yet, each once, in the order in which they come. -/
def unknown (known : List (Uuid × String)) (ps : List Promotion) : List Uuid :=
  ((ps.map (·.companyId)).filter fun c => (known.lookup c).isNone).eraseDups

/-- A company that is known is not asked for again. -/
theorem unknown_cons_of_known {known : List (Uuid × String)} {name : String}
    (h : known.lookup p.companyId = some name) : unknown known (p :: ps) = unknown known ps := by
  simp [unknown, h]

/-- A company that is asked for is known from then on. -/
theorem unknown_cons_of_new {known : List (Uuid × String)}
    (h : known.lookup p.companyId = none) (name : String) :
    unknown known (p :: ps) = p.companyId :: unknown ((p.companyId, name) :: known) ps := by
  have hnew : ((p :: ps).map (·.companyId)).filter (fun c => (known.lookup c).isNone) =
      p.companyId :: (ps.map (·.companyId)).filter fun c => (known.lookup c).isNone := by
    simp [h]
  have hother (c : Uuid) : (!c == p.companyId && (known.lookup c).isNone) =
      (((p.companyId, name) :: known).lookup c).isNone := by
    rw [List.lookup_cons]
    cases c == p.companyId <;> rfl
  rw [unknown, hnew, List.eraseDups_cons, List.filter_filter, unknown]
  simp only [hother]

/-- Behind a promotion the listing goes on with the others, and the promotion is put in front. -/
theorem Service.namedBehind_goes {name : String} {known : List (Uuid × String)}
    {t : List ((q : Ask) × q.Answer)} {r : Except Failure (List Detail)} :
    (namedBehind p name known ps).Goes t r ↔
      ∃ rest, (named known ps).Goes t rest ∧ r = rest.map (p.detail name :: ·) := by
  rw [namedBehind, Dialogue.goes_bind]
  constructor
  · rintro ⟨before, after, rest, rfl, hbefore, rfl, rfl⟩
    exact ⟨rest, by rwa [List.append_nil], rfl⟩
  · rintro ⟨rest, hrest, rfl⟩
    exact ⟨t, [], rest, (List.append_nil t).symm, hrest, rfl, rfl⟩

/-- All that a listing knows is what the directory tells. -/
def Remembers (names : Uuid → Except Failure String) (known : List (Uuid × String)) : Prop :=
  ∀ c name, known.lookup c = some name → names c = .ok name

theorem Remembers.cons {known : List (Uuid × String)} (h : Remembers names known) {c : Uuid}
    {name : String} (hc : names c = .ok name) : Remembers names ((c, name) :: known) := by
  intro d other hd
  rw [List.lookup_cons] at hd
  split at hd
  · rename_i hsame
    obtain rfl := Option.some.inj hd
    rw [eq_of_beq hsame, hc]
  · exact h d other hd

/-- A listing that knows names of some companies looks up those of the others, and it shows what
looking up all of them would show. -/
theorem Service.named_goes {known : List (Uuid × String)}
    {t : List ((q : Ask) × q.Answer)} {r : Except Failure (List Detail)}
    (h : (Service.named known ps).Goes t r) (hknown : Remembers names known)
    (htold : ∀ c a, ⟨.companyName c, a⟩ ∈ t → a = names c) :
    r = detailsOf names ps ∧ t = lookups names (upToFailure names (unknown known ps)) := by
  induction ps generalizing known t r with
  | nil =>
    obtain ⟨rfl, rfl⟩ := h
    exact ⟨rfl, rfl⟩
  | cons p ps ih =>
    cases hlookup : known.lookup p.companyId with
    | some name =>
      rw [named_cons_of_known hlookup, namedBehind_goes] at h
      obtain ⟨rest, hrest, rfl⟩ := h
      obtain ⟨rfl, rfl⟩ := ih hrest hknown htold
      rw [detailsOf_cons_of_ok (hknown _ _ hlookup), unknown_cons_of_known hlookup]
      exact ⟨rfl, rfl⟩
    | none =>
      rw [named_cons_of_new hlookup] at h
      obtain ⟨a, t, rfl, h⟩ := h
      obtain rfl := htold p.companyId a List.mem_cons_self
      cases hname : names p.companyId with
      | error f =>
        rw [hname] at h
        obtain ⟨rfl, rfl⟩ := h
        rw [detailsOf_cons_of_error hname, unknown_cons_of_new hlookup ""]
        simp only [upToFailure, lookups, hname, List.map_cons, List.map_nil, and_self]
      | ok name =>
        rw [hname] at h
        obtain ⟨rest, hrest, rfl⟩ := namedBehind_goes.mp h
        obtain ⟨rfl, rfl⟩ := ih hrest (hknown.cons hname) fun c a hc =>
          htold c a (List.mem_cons_of_mem _ hc)
        rw [detailsOf_cons_of_ok hname, unknown_cons_of_new hlookup name]
        simp only [upToFailure, lookups, hname, List.map_cons, and_self]

theorem unknown_nil (ps : List Promotion) : unknown [] ps = (ps.map (·.companyId)).eraseDups :=
  congrArg List.eraseDups (List.filter_eq_self.mpr fun _ _ => rfl)

/-- A company that has not come before is the next one that is different. -/
theorem eraseDups_append_cons {before : List Uuid} {c : Uuid} (hc : c ∉ before)
    (after : List Uuid) : (before ++ c :: after).eraseDups =
      before.eraseDups ++ c :: ((after.removeAll before).filter fun d => !d == c).eraseDups := by
  have hnew : (c :: after).removeAll before = c :: after.removeAll before := by
    rw [List.cons_removeAll, if_pos (by simpa using hc)]
  rw [List.eraseDups_append, hnew, List.eraseDups_cons]

/-- The different companies up to the first one whose name is not told. -/
theorem upToFailure_eraseDups {before after : List Uuid} {c : Uuid} {f : Failure}
    (hbefore : ∀ d ∈ before, ∃ name, names d = .ok name) (hc : names c = .error f) :
    upToFailure names (before ++ c :: after).eraseDups = (before ++ [c]).eraseDups := by
  have hnew : c ∉ before := by
    intro hmem
    obtain ⟨name, hname⟩ := hbefore c hmem
    cases hc.symm.trans hname
  rw [eraseDups_append_cons hnew, eraseDups_append_cons hnew]
  exact upToFailure_of_failure (fun d hd => hbefore d (List.mem_eraseDups.mp hd)) hc

/-! ### Listings -/

/-- A listing asks the store for its page and then for names, and asks the cache for nothing. -/
theorem Service.list_eq (company : Uuid) (countries : List String) (page : Page) (key : SortKey) :
    Service.list company countries page key =
      .ask (.store (.list (.of company countries) page key)) fun
        | .error f => .done (.error f)
        | .ok ps => named [] ps := rfl

/-- What a listing has asked, and what it shows, once the store has answered. -/
theorem Service.list_transcript {σ : Type} {answer : (q : Ask) → σ → q.Answer × σ} {s : σ}
    {company : Uuid} {countries : List String} {page : Page} {key : SortKey}
    (hlisted : (answer (.store (.list (.of company countries) page key)) s).1 = .ok ps)
    (htold : ∀ c a, ⟨.companyName c, a⟩ ∈
      (Service.list company countries page key).transcript answer s → a = names c) :
    ((Service.list company countries page key).run answer s).1 = detailsOf names ps ∧
      (Service.list company countries page key).transcript answer s =
        ⟨.store (.list (.of company countries) page key), .ok ps⟩ ::
          lookups names (upToFailure names (ps.map (·.companyId)).eraseDups) := by
  rw [list_eq, Dialogue.transcript, hlisted] at htold ⊢
  rw [Dialogue.run, hlisted]
  obtain ⟨hshown, hasked⟩ := named_goes (Dialogue.goes_transcript answer (named [] ps) _)
    (fun c name hc => by cases hc) fun c a hc => htold c a (List.mem_cons_of_mem _ hc)
  rw [unknown_nil] at hasked
  exact ⟨hshown, congrArg (List.cons _) hasked⟩

/-- What surroundings have answered in a dialogue, they answer in some state. -/
theorem Dialogue.exists_of_mem_transcript {α σ : Type} {answer : (q : Ask) → σ → q.Answer × σ}
    {d : Action α} {s : σ} {q : Ask} {r : q.Answer} (h : ⟨q, r⟩ ∈ d.transcript answer s) :
    ∃ t, (answer q t).1 = r := by
  induction d generalizing s with
  | done a => cases h
  | ask q' next ih =>
    rcases List.mem_cons.mp h with heq | hrest
    · cases heq
      exact ⟨s, rfl⟩
    · exact ih _ hrest

end

def offerOf (n : Nat) : Promotion where
  id := Supply.idAt 0
  companyId := Supply.idAt n
  mode := .unique
  content := ⟨"Dez por cento", none, {}, none, none⟩
  createdAt := Supply.timeAt 0
  codes := []

def twoNames (company : Uuid) : Except Failure String :=
  if company = Supply.idAt 1 then .ok "Padaria"
  else if company = Supply.idAt 2 then .ok "Livraria"
  else .error .companyNotFound

def answerListing (ps : List Promotion) (q : Ask) (e : Memory.Environment) :
    q.Answer × Memory.Environment :=
  match q with
  | .store (.list _ _ _) => (.ok ps, e)
  | .companyName company => (twoNames company, e)
  | q => e.answer q

/-- A listing as it is when nothing is said about it. -/
def plainListing : Action (Except Failure (List Detail)) :=
  Service.list (Supply.idAt 1) [] { limit := 10, offset := 0 } .createdAt

end Promotions
