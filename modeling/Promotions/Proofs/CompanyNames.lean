import Promotions.Directory
import Promotions.Proofs.Acceptance
import Promotions.Proofs.MemberOrder

/-!
Which replies of the directory name a company. The body must be JSON that tells a name: an object
with one member for it among members with other names, or an array with nothing else. The status
must not be one that says that the request or the server is at fault, and must have a body; but it
need not say that the request has succeeded, so that a redirection can name a company as well. Only
the status 404 says that there is no such company, and everything else is a failure of the directory.
-/

namespace Promotions

open Json

namespace Directory

inductive Tells : Tree → String → Prop
  | object (before after : List Member) {key ps : List Piece} {n : String} :
      Piece.text? key = some "name" → Piece.text? ps = some n →
        (∀ m ∈ before ++ after, ∃ other, Piece.text? m.1 = some other ∧ other ≠ "name") →
          Tells (.object (before ++ (key, .text ps) :: after)) n
  | array {ps : List Piece} {n : String} : Piece.text? ps = some n → Tells (.array [.text ps]) n

/-- A status that says neither that the request nor that the server is at fault, and that has a
body. -/
def NamingStatus (status : Nat) : Prop :=
  (200 ≤ status ∧ status < 400 ∨ 600 ≤ status ∧ status < 1000) ∧ status ≠ 204 ∧ status ≠ 304

def Received (base : String) (id : Uuid) (reply : Option Reply) (r : Reply) : Prop :=
  (requestLine? base id).isSome = true ∧ reply = some r

theorem find?_name (name : String) : (shape.fields.find? fun f => shape.name f == name) =
    if name = "name" then some .name else none := by
  by_cases h : name = "name"
  · subst h
    rfl
  · have hne : ("name" == name) = false := beq_false_of_ne (Ne.symm h)
    simp [shape, hne, h]

/-- A name is read from a string that stands for a text, and from nothing else. -/
theorem readBy_text_eq_ok {t : Tree} {n : String} :
    t.readBy text = .ok n ↔ ∃ ps, t = .text ps ∧ Piece.text? ps = some n := by
  have hread (ps : List Piece) : Piece.read ps = .ok n ↔ Piece.text? ps = some n := by
    unfold Piece.read
    cases Piece.text? ps <;> simp
  constructor
  · intro h
    by_cases htext : ∃ ps, t = .text ps
    · obtain ⟨ps, rfl⟩ := htext
      rw [(reads_text ps).readBy_eq, hread] at h
      exact ⟨ps, rfl, h⟩
    · rw [(reads_text_other fun ps heq => htext ⟨ps, heq⟩).readBy_eq] at h
      cases h
  · rintro ⟨ps, rfl, h⟩
    rw [(reads_text ps).readBy_eq, hread]
    exact h

theorem gives_name_iff {m : Member} : shape.Gives m .name ↔ Piece.text? m.1 = some "name" := by
  constructor
  · rintro ⟨name, hname, hfield⟩
    rw [find?_name] at hfield
    split at hfield
    · rename_i heq
      exact heq ▸ hname
    · cases hfield
  · exact fun h => ⟨"name", h, rfl⟩

theorem passesOver_iff {m : Member} : shape.PassesOver m ↔
    ∃ other, Piece.text? m.1 = some other ∧ other ≠ "name" := by
  constructor
  · rintro ⟨other, hother, hnone⟩
    refine ⟨other, hother, ?_⟩
    rintro rfl
    cases hnone
  · rintro ⟨other, hother, hne⟩
    exact ⟨other, hother, by rw [find?_name, if_neg hne]⟩

theorem ofMembers_eq_ok {g : Given fun _ : Field => String} {c : Company} :
    shape.ofMembers g = .ok c ↔ g .name = some c.name := by
  unfold Shape.ofMembers
  cases hname : g .name with
  | none => simp [shape, hname, Absence.inObject?]
  | some n => cases c; simp [shape, hname]

/-- An object is read exactly if one member gives the name and no other member repeats it. -/
theorem record_eq_ok {levels : Nat} {ms : List Member} {c : Company} :
    shape.record levels ms = .ok c ↔ Tells (.object ms) c.name := by
  constructor
  · intro h
    obtain ⟨g, hgiven, hassemble⟩ := bind_ok h
    obtain ⟨before, ⟨key, t⟩, after, rfl, hgives, hvalue, hspares⟩ :=
      Shape.exists_giver hgiven rfl (ofMembers_eq_ok.mp hassemble)
    obtain ⟨ps, rfl, hps⟩ := readBy_text_eq_ok.mp hvalue
    refine .object before after (gives_name_iff.mp hgives) hps fun m hm => ?_
    rcases hspares m hm with hover | ⟨f', hne, -⟩
    · exact passesOver_iff.mp hover
    · exact absurd rfl hne
  · intro h
    cases h with
    | object before after hkey hps hothers =>
      rename_i key ps
      obtain ⟨hbefore, hafter⟩ := List.forall_mem_append.mp hothers
      have hmember : shape.give levels Given.empty (key, .text ps) =
          .ok (Given.empty.set .name c.name) := by
        rw [Shape.give_of_gives (gives_name_iff.mpr hkey) rfl]
        exact congrArg (Except.map _) (readBy_text_eq_ok.mpr ⟨ps, rfl, hps⟩)
      have hfold : (before ++ (key, .text ps) :: after).foldlM (shape.give levels) Given.empty =
          .ok (Given.empty.set .name c.name) := by
        rw [List.foldlM_append,
          Shape.foldlM_give_passesOver fun m hm => passesOver_iff.mpr (hbefore m hm)]
        change ((key, Tree.text ps) :: after).foldlM (shape.give levels) Given.empty = _
        rw [List.foldlM_cons, hmember]
        exact Shape.foldlM_give_passesOver fun m hm => passesOver_iff.mpr (hafter m hm)
      rw [Shape.record, hfold]
      exact (ofMembers_eq_ok (g := Given.empty.set .name c.name)).mpr (Given.set_self _ _ _)

/-- An array is read exactly if its only item is the name. -/
theorem fill_eq_ok {levels : Nat} {ts : List Tree} {c : Company} :
    (shape.fill levels shape.fields Given.empty ts >>= shape.ofItems) = .ok c ↔
      Tells (.array ts) c.name := by
  have hfields : shape.fields = [.name] := rfl
  rw [hfields]
  constructor
  · intro h
    obtain ⟨g, hfilled, hassemble⟩ := bind_ok h
    cases ts with
    | nil => cases hfilled
    | cons t ts =>
      obtain ⟨n, hvalue, hrest⟩ := bind_ok hfilled
      obtain ⟨ps, rfl, hps⟩ := readBy_text_eq_ok.mp hvalue
      cases ts with
      | nil =>
        cases hrest
        cases hassemble
        exact .array hps
      | cons t' ts => cases hrest
  · intro h
    cases h with
    | array hps =>
      rename_i ps
      have hvalue : (Tree.text ps).readBy (shape.read .name levels) = .ok c.name :=
        readBy_text_eq_ok.mpr ⟨ps, rfl, hps⟩
      simp only [Shape.fill, hvalue, bind, Except.bind]
      rfl

theorem readBy_eq_ok {t : Tree} {c : Company} :
    t.readBy (shape.reader maxLevels) = .ok c ↔ Tells t c.name := by
  have hreads (f : Field) : IgnoresGaps (shape.read f (maxLevels - 1)) := ignoresGaps_text
  cases t with
  | object ms =>
    have hrecord : (Tree.object ms).readBy (shape.reader maxLevels) =
        shape.record (maxLevels - 1) ms := (Shape.reads_object hreads ms).readBy_eq
    rw [hrecord, record_eq_ok]
  | array ts =>
    have hrecord : (Tree.array ts).readBy (shape.reader maxLevels) =
        (shape.fill (maxLevels - 1) shape.fields Given.empty ts >>= shape.ofItems) :=
      (Shape.reads_array hreads ts).readBy_eq
    rw [hrecord, fill_eq_ok]
  | null | bool | number | text =>
    rw [(Shape.reads_other (fun _ h => by cases h) fun _ h => by cases h).readBy_eq]
    constructor
    · intro h
      cases h
    · intro h
      cases h

/-- A body is read exactly if it writes a value that tells the name. -/
theorem parse_eq_ok {s : String} {c : Company} :
    parse shape.reader s = .ok c ↔ ∃ t, Writes s t ∧ Tells t c.name := by
  have hgaps : IgnoresGaps (shape.reader maxLevels) :=
    Shape.ignoresGaps_reader (fun _ _ => ignoresGaps_text) _
  constructor
  · intro h
    obtain ⟨t, ht⟩ := exists_writes
      (Shape.grammatical_reader (fun _ _ => grammatical_text) maxLevels) h
    rw [parse_eq hgaps ht] at h
    exact ⟨t, ht, readBy_eq_ok.mp h⟩
  · rintro ⟨t, ht, htells⟩
    rw [parse_eq hgaps ht]
    exact readBy_eq_ok.mpr htells

/-- A name comes from a reply exactly if both its status and its body give it. -/
theorem name_eq_ok {url : String} {reply : Option Reply} {n : String} :
    name url reply = .ok n ↔
      ∃ r, reply = some r ∧ NamingStatus r.status ∧ ∃ t, Writes r.body t ∧ Tells t n := by
  cases reply with
  | none => simp [name]
  | some r =>
    have hstatus : NamingStatus r.status ↔ r.status ≠ 404 ∧ ¬(400 ≤ r.status ∧ r.status < 600) ∧
        hasBody r.status = true := by
      simp only [NamingStatus, hasBody, Bool.and_eq_true, decide_eq_true_eq]
      omega
    have hbody : (∃ t, Writes r.body t ∧ Tells t n) ↔ parse shape.reader r.body = .ok ⟨n⟩ :=
      (parse_eq_ok (c := ⟨n⟩)).symm
    simp only [Option.some.injEq, exists_eq_left', hstatus, hbody]
    unfold name
    by_cases hmissing : r.status = 404
    · simp [hmissing]
    by_cases hfailed : 400 ≤ r.status ∧ r.status < 600
    · simp [hmissing, hfailed]
    by_cases hempty : hasBody r.status = true
    · simp only [hmissing, hfailed, hempty, if_true, if_false, ne_eq, not_false_eq_true, true_and]
      cases parse shape.reader r.body with
      | error e => simp
      | ok c => cases c; simp
    · simp [hmissing, hfailed, hempty]

theorem name_of_missing {url : String} {r : Reply} (h : r.status = 404) :
    name url (some r) = .error .companyNotFound := by
  simp only [name, h, if_true]

/-- Without the status 404 there is a name or a failure of the directory. -/
theorem name_of_not_missing {url : String} {reply : Option Reply}
    (h : ∀ r, reply = some r → r.status ≠ 404) :
    (∃ n, name url reply = .ok n) ∨ ∃ message, name url reply = .error (.directory message) := by
  cases reply with
  | none => exact Or.inr ⟨_, rfl⟩
  | some r =>
    simp only [name, h r rfl, if_false]
    split
    · exact Or.inr ⟨_, rfl⟩
    · split
      · split
        · exact Or.inl ⟨_, rfl⟩
        · exact Or.inr ⟨_, rfl⟩
      · exact Or.inr ⟨_, rfl⟩

theorem name_eq_companyNotFound {url : String} {reply : Option Reply} :
    name url reply = .error .companyNotFound ↔ ∃ r, reply = some r ∧ r.status = 404 := by
  constructor
  · intro h
    by_contra hnone
    rcases name_of_not_missing (fun r hr h404 => hnone ⟨r, hr, h404⟩) with ⟨n, hn⟩ | ⟨message, hm⟩
    · rw [hn] at h
      cases h
    · rw [hm] at h
      cases h
  · rintro ⟨r, rfl, h404⟩
    exact name_of_missing h404

/-- No other failure comes of a reply. -/
theorem failure_of_name {url : String} {reply : Option Reply} {f : Failure}
    (h : name url reply = .error f) : f = .companyNotFound ∨ ∃ message, f = .directory message := by
  by_cases h404 : ∃ r, reply = some r ∧ r.status = 404
  · rw [name_eq_companyNotFound.mpr h404] at h
    cases h
    exact Or.inl rfl
  · rcases name_of_not_missing (fun r hr hmissing => h404 ⟨r, hr, hmissing⟩) with
      ⟨n, hn⟩ | ⟨message, hm⟩
    · rw [hn] at h
      cases h
    · rw [hm] at h
      cases h
      exact Or.inr ⟨message, rfl⟩

/-- A company is named by a reply that has a body and is no error, if the body tells the name; only
the status 404 says that there is no such company; and whatever else happens is a failure of the
directory. -/
theorem company_named_iff (base : String) (id : Uuid) (reply : Option Reply) :
    (∀ n, companyName base id reply = .ok n ↔
      ∃ r, Received base id reply r ∧ NamingStatus r.status ∧ ∃ t, Writes r.body t ∧ Tells t n) ∧
    (companyName base id reply = .error .companyNotFound ↔
      ∃ r, Received base id reply r ∧ r.status = 404) ∧
    ∀ f, companyName base id reply = .error f →
      f = .companyNotFound ∨ ∃ message, f = .directory message := by
  have hreceived (P : Reply → Prop) :
      (∃ r, (if (requestLine? base id).isSome then reply else none) = some r ∧ P r) ↔
        ∃ r, Received base id reply r ∧ P r := by
    unfold Received
    cases (requestLine? base id).isSome <;> simp
  unfold companyName
  refine ⟨fun n => ?_, ?_, fun f => failure_of_name⟩
  · rw [name_eq_ok, hreceived]
  · rw [name_eq_companyNotFound, hreceived]

def acmeBody : String := "\x7b\"name\":\"Acme\"\x7d"

/-- A redirection that leads nowhere names a company if its body does. -/
theorem redirection_names_company :
    companyName "http://[::1]" ⟨2⟩ (some ⟨300, acmeBody⟩) = .ok "Acme" := by
  have hrequest : (requestLine? "http://[::1]" ⟨2⟩).isSome = true := by decide +kernel
  have hwrites : Writes acmeBody (.object [(spelled "name", .text (spelled "Acme"))]) :=
    writes_of_flatten (by decide +kernel)
  have htells : Tells (.object ([] ++ (spelled "name", .text (spelled "Acme")) :: [])) "Acme" :=
    .object [] [] (by decide +kernel) (by decide +kernel) fun _ h => (by cases h)
  rw [companyName, if_pos hrequest, name_eq_ok]
  exact ⟨_, rfl, ⟨Or.inl (by decide), by decide⟩, _, hwrites, htells⟩

end Directory

end Promotions
