import Promotions.Proofs.Acceptance
import Promotions.Proofs.MemberOrder
import Promotions.Request.Text

/-!
Requests are read by the names of their members. The members of a request, and those of its target,
can stand in any order, with any members of other names between them, with null for what may be
missing, and with any white space. But no member may be repeated, not even with the same value: the
second one is refused for its name. Only the value of a repetition in front of the member is looked
at before that, so what is wrong with it comes first.
-/

namespace Promotions

open Json

/-- The names that the members of an object can have, and those of them that may be null instead of
missing. -/
structure Names where
  known : List String
  optional : List String

/-- A member has this name. -/
def Json.Member.IsNamed (m : Member) (name : String) : Prop := Piece.text? m.1 = some name

/-- One change to the members of an object that makes no difference. -/
inductive Rearranged (names : Names) : List Member → List Member → Prop
  | moved {ms ms' : List Member} : ms.Perm ms' → Rearranged names ms ms'
  | other (before after : List Member) {m : Member} {name : String} : m.IsNamed name →
      name ∉ names.known → Rearranged names (before ++ after) (before ++ m :: after)
  | null (before after : List Member) {key : List Piece} {name : String} :
      Member.IsNamed (key, .null) name → name ∈ names.optional →
        (∀ m ∈ before ++ after, ¬Member.IsNamed m name) →
          Rearranged names (before ++ after) (before ++ (key, .null) :: after)

/-- The names of the members of a target. -/
def Target.names : Names where
  known := ["ageFrom", "ageUntil", "country", "categories"]
  optional := ["ageFrom", "ageUntil", "country"]

/-- Where the members of an object stand in a request: they are those of the request, or those of
its target. -/
inductive Place (request : Names) : Names → (List Member → Tree) → Prop
  | request : Place request request .object
  | target (before after : List Member) {key : List Piece} : Piece.text? key = some "target" →
      Place request Target.names fun ms => .object (before ++ (key, .object ms) :: after)

/-- One change to a request that makes no difference. -/
inductive Changed (request : Names) : Tree → Tree → Prop
  | mk {names : Names} {place : List Member → Tree} {ms ms' : List Member} :
      Place request names place → Rearranged names ms ms' →
        Changed request (place ms) (place ms')

/-- Requests with these members are read by name only. -/
structure ReadByName {α : Type} (parse : String → Except Fault α) (request : Names) : Prop where
  /-- Every text that is read writes a value. -/
  written {s : String} {a : α} : parse s = .ok a → ∃ t, Writes s t
  /-- Any changes to the members, and any change of white space, make no difference. -/
  changed {t t' : Tree} {s s' : String} {a : α} :
    Relation.ReflTransGen (Changed request) t t' → Writes s t → Writes s' t' →
      parse s = .ok a → parse s' = .ok a
  /-- A member that is repeated behind itself makes a mismatch, whatever its value is. -/
  repeated {names : Names} {place : List Member → Tree} {before between after : List Member}
    {m m' : Member} {name : String} {s s' : String} {a : α} :
    Place request names place → name ∈ names.known → m.IsNamed name → m'.IsNamed name →
      Writes s (place (before ++ m :: (between ++ after))) →
        Writes s' (place (before ++ m :: (between ++ m' :: after))) →
          parse s = .ok a → parse s' = .error .mismatch
  /-- A member that is repeated in front of itself with the same value makes a mismatch. -/
  repeated_same {names : Names} {place : List Member → Tree} {before between after : List Member}
    {m m' : Member} {name : String} {s s' : String} {a : α} :
    Place request names place → name ∈ names.known → m.IsNamed name → m'.IsNamed name →
      m'.2 = m.2 → Writes s (place (before ++ (between ++ m :: after))) →
        Writes s' (place (before ++ m' :: (between ++ m :: after))) →
          parse s = .ok a → parse s' = .error .mismatch
  /-- A member that is repeated in front of itself with another value makes the fault that the text
  has with the repetition in place of the member, and a mismatch if this has none. -/
  repeated_inFront {names : Names} {place : List Member → Tree}
    {before between after : List Member} {m m' : Member} {name : String} {s s' u : String} {a : α} :
    Place request names place → name ∈ names.known → m.IsNamed name → m'.IsNamed name →
      Writes s (place (before ++ (between ++ m :: after))) →
        Writes s' (place (before ++ m' :: (between ++ m :: after))) →
          Writes u (place (before ++ m' :: (between ++ after))) →
            parse s = .ok a →
              parse s' = .error (Shape.refusal (parse u))

/-! ### Members of one object -/

/-- What is made of the members of an object hangs on their names only. -/
structure Nominal {α : Type} (names : Names) (read : List Member → Except Fault α) : Prop where
  rearranged {ms ms' : List Member} {a : α} : Rearranged names ms ms' → read ms = .ok a →
    read ms' = .ok a
  repeated {before between after : List Member} {m m' : Member} {name : String} {a : α} :
    name ∈ names.known → m.IsNamed name → m'.IsNamed name →
      read (before ++ m :: (between ++ after)) = .ok a →
        read (before ++ m :: (between ++ m' :: after)) = .error .mismatch
  repeated_inFront {before between after : List Member} {m m' : Member} {name : String} {a : α} :
    name ∈ names.known → m.IsNamed name → m'.IsNamed name →
      read (before ++ (between ++ m :: after)) = .ok a →
        read (before ++ m' :: (between ++ m :: after)) =
          .error (Shape.refusal (read (before ++ m' :: (between ++ after))))
  same_value {before between after : List Member} {m m' : Member} {name : String} {a : α} :
    name ∈ names.known → m.IsNamed name → m'.IsNamed name → m'.2 = m.2 →
      read (before ++ (between ++ m :: after)) = .ok a →
        read (before ++ m' :: (between ++ after)) = .ok a

namespace Json.Shape

variable {Field : Type} [DecidableEq Field] {Content : Field → Type} {α : Type}
  {shape : Shape Field Content α} {levels : Nat} {names : Names}

/-- A shape has these names: all its fields have values of their own, and those that may be null
have the value that is read from null. -/
structure Bears (shape : Shape Field Content α) (levels : Nat) (names : Names) : Prop where
  complete : shape.Complete
  known : names.known = shape.fields.map shape.name
  optional (name : String) : name ∈ names.optional → ∃ f v,
    (shape.fields.find? fun f => shape.name f == name) = some f ∧
      (shape.absent f).inObject? = some v ∧ Tree.null.readBy (shape.read f levels) = .ok v

omit [DecidableEq Field] in
theorem Bears.mem_known (h : shape.Bears levels names) (name : String) : name ∈ names.known ↔
    (shape.fields.find? fun f => shape.name f == name).isSome = true := by
  rw [h.known, List.mem_map, List.find?_isSome]
  simp only [beq_iff_eq]

omit [DecidableEq Field] in
theorem Bears.exists_field (h : shape.Bears levels names) {name : String}
    (hname : name ∈ names.known) :
    ∃ f, ∀ m : Member, m.IsNamed name → shape.Gives m f := by
  obtain ⟨f, hf⟩ := Option.isSome_iff_exists.mp ((h.mem_known name).mp hname)
  exact ⟨f, fun m hm => ⟨name, hm, hf⟩⟩

/-- What is made of a record hangs on the names of its members only. -/
theorem nominal_record (h : shape.Bears levels names) : Nominal names (shape.record levels) where
  rearranged hchange hread := by
    cases hchange with
    | moved hperm => exact record_perm hperm hread
    | other _ _ hname hother =>
      rename_i name
      have hnone : (shape.fields.find? fun f => shape.name f == name) = none := by
        rw [← Option.not_isSome_iff_eq_none]
        exact fun hsome => hother ((h.mem_known name).mpr hsome)
      rw [record_passesOver ⟨name, hname, hnone⟩]
      exact hread
    | null _ _ hname hoptional habsent =>
      rename_i name
      obtain ⟨f, v, hf, hdefault, hvalue⟩ := h.optional name hoptional
      refine record_null ⟨name, hname, hf⟩ (fun m hm hgives => ?_) hvalue hdefault hread
      obtain ⟨name', hname', hf'⟩ := hgives
      have hnamed := List.find?_some (p := fun f => shape.name f == name) hf
      have hnamed' := List.find?_some (p := fun f => shape.name f == name') hf'
      have hsame : name' = name := (beq_iff_eq.mp hnamed').symm.trans (beq_iff_eq.mp hnamed)
      exact habsent m hm (hsame ▸ hname')
  repeated hname hm hm' hread := by
    obtain ⟨f, hf⟩ := h.exists_field hname
    exact record_repeated (hf _ hm) (hf _ hm') hread
  repeated_inFront hname hm hm' hread := by
    obtain ⟨f, hf⟩ := h.exists_field hname
    exact record_repeated_inFront h.complete (hf _ hm) (hf _ hm') hread
  same_value hname hm hm' hvalue hread := by
    obtain ⟨f, hf⟩ := h.exists_field hname
    exact record_same_value (hf _ hm) (hf _ hm') hvalue hread

/-! ### Members of an object inside another one -/

variable {key : List Piece} {f : Field} {before after : List Member} {a : α}

/-- What is made of an object hangs on one of its values only by what is made of that value. -/
theorem record_value (hgives : ∀ t, shape.Gives (key, t) f) {t : Tree}
    (h : shape.record levels (before ++ (key, t) :: after) = .ok a) :
    ∃ v, t.readBy (shape.read f levels) = .ok v ∧
      (∀ t', t'.readBy (shape.read f levels) = .ok v →
        shape.record levels (before ++ (key, t') :: after) = .ok a) ∧
      ∀ t' e, t'.readBy (shape.read f levels) = .error e →
        shape.record levels (before ++ (key, t') :: after) = .error e := by
  obtain ⟨g, hgiven, hassemble⟩ := bind_ok h
  rw [List.foldlM_append] at hgiven
  obtain ⟨g₁, hbefore, hgiven⟩ := bind_ok hgiven
  rw [List.foldlM_cons] at hgiven
  obtain ⟨g₂, hmember, hafter⟩ := bind_ok hgiven
  obtain ⟨v, hnew, hvalue, rfl⟩ := (hgives t).new hmember
  refine ⟨v, hvalue, fun t' ht' => ?_, fun t' e ht' => ?_⟩
  · have hsame : shape.give levels g₁ (key, t') = .ok (g₁.set f v) := by
      rw [give_of_gives (hgives t') hnew, ht']
      rfl
    simp only [record, List.foldlM_append, List.foldlM_cons, hbefore, hsame, hafter, bind,
      Except.bind]
    exact hassemble
  · have hrefused : shape.give levels g₁ (key, t') = .error e := by
      rw [give_of_gives (hgives t') hnew, ht']
      rfl
    simp only [record, List.foldlM_append, List.foldlM_cons, hbefore, hrefused, bind, Except.bind]

/-- Any other value that can be read makes a record as well. -/
theorem exists_record (hcomplete : shape.Complete) (hgives : ∀ t, shape.Gives (key, t) f)
    {t t' : Tree} {v : Content f} (h : shape.record levels (before ++ (key, t) :: after) = .ok a)
    (hvalue : t'.readBy (shape.read f levels) = .ok v) :
    ∃ b, shape.record levels (before ++ (key, t') :: after) = .ok b := by
  have hsplit : shape.record levels (before ++ ([] ++ (key, t) :: after)) = .ok a := h
  obtain ⟨g, hothers, hnew⟩ := exists_others (hgives t) hsplit
  rw [List.nil_append] at hothers
  obtain ⟨b, hb⟩ := exists_ofMembers hcomplete (g.set f v)
  refine ⟨b, ?_⟩
  rw [record, foldlM_give_insert (hgives t') hnew hvalue hothers]
  exact hb

/-- What is made of an object hangs on the names of its members inside a record as well. -/
theorem nominal_value (hcomplete : shape.Complete) (hgives : ∀ t, shape.Gives (key, t) f)
    (hinner : Nominal names fun ms => (Tree.object ms).readBy (shape.read f levels)) :
    Nominal names fun ms => shape.record levels (before ++ (key, .object ms) :: after) where
  rearranged hchange hread := by
    obtain ⟨v, hv, hsame, -⟩ := record_value hgives hread
    exact hsame _ (hinner.rearranged hchange hv)
  repeated hname hm hm' hread := by
    obtain ⟨v, hv, -, hfault⟩ := record_value hgives hread
    exact hfault _ _ (hinner.repeated hname hm hm' hv)
  repeated_inFront {front between back m m' name a} hname hm hm' hread := by
    obtain ⟨v, hv, -, hfault⟩ := record_value hgives hread
    rw [hfault _ _ (hinner.repeated_inFront hname hm hm' hv)]
    -- If the inner object has no fault without the other member, neither has the outer one.
    cases hvalue :
      (Tree.object (front ++ m' :: (between ++ back))).readBy (shape.read f levels) with
    | error e =>
      rw [hfault _ _ hvalue]
      rfl
    | ok v' =>
      obtain ⟨b, hb⟩ := exists_record hcomplete hgives hread hvalue
      rw [hb]
      rfl
  same_value hname hm hm' hvalue hread := by
    obtain ⟨v, hv, hsame, -⟩ := record_value hgives hread
    exact hsame _ (hinner.same_value hname hm hm' hvalue hv)

end Json.Shape

/-! ### Requests -/

/-- Requests are read by name only if they are made of their members and those of their target. -/
theorem readByName_of_nominal {α : Type} {parse : String → Except Fault α} {request : Names}
    {read : Tree → Except Fault α} (hwritten : ∀ s a, parse s = .ok a → ∃ t, Writes s t)
    (hparse : ∀ s t, Writes s t → parse s = read t)
    (hplace : ∀ names place, Place request names place → Nominal names fun ms => read (place ms)) :
    ReadByName parse request where
  written h := hwritten _ _ h
  changed {t t' s s' a} hchanges hs hs' hread := by
    rw [hparse _ _ hs] at hread
    rw [hparse _ _ hs']
    clear hs hs'
    induction hchanges with
    | refl => exact hread
    | tail _ hchange ih =>
      obtain ⟨hat, hrearranged⟩ := hchange
      exact (hplace _ _ hat).rearranged hrearranged ih
  repeated hat hname hm hm' hs hs' hread := by
    rw [hparse _ _ hs] at hread
    rw [hparse _ _ hs']
    exact (hplace _ _ hat).repeated hname hm hm' hread
  repeated_same hat hname hm hm' hvalue hs hs' hread := by
    rw [hparse _ _ hs] at hread
    rw [hparse _ _ hs', (hplace _ _ hat).repeated_inFront hname hm hm' hread,
      (hplace _ _ hat).same_value hname hm hm' hvalue hread, Shape.refusal]
  repeated_inFront hat hname hm hm' hs hs' hu hread := by
    rw [hparse _ _ hs] at hread
    rw [hparse _ _ hs', hparse _ _ hu]
    exact (hplace _ _ hat).repeated_inFront hname hm hm' hread

theorem Target.bears (levels : Nat) : Target.shape.Bears levels Target.names where
  complete := ⟨fun f => by cases f <;> rfl, fun _ => rfl⟩
  known := rfl
  optional name hname := by
    simp only [Target.names, List.mem_cons, List.not_mem_nil, or_false] at hname
    rcases hname with rfl | rfl | rfl
    · exact ⟨.ageFrom, none, by decide, rfl, (reads_optional_null _).readBy_eq⟩
    · exact ⟨.ageUntil, none, by decide, rfl, (reads_optional_null _).readBy_eq⟩
    · exact ⟨.country, none, by decide, rfl, (reads_optional_null _).readBy_eq⟩

theorem Target.grammatical (f : Target.Field) (levels : Nat) :
    Grammatical (Target.shape.read f levels) := by
  cases f with
  | ageFrom | ageUntil => exact grammatical_int32.optional
  | country => exact grammatical_text.optional
  | categories => exact grammatical_text.list

theorem Target.ignoresGaps (f : Target.Field) (levels : Nat) :
    IgnoresGaps (Target.shape.read f levels) := by
  cases f with
  | ageFrom | ageUntil => exact ignoresGaps_int32.optional
  | country => exact ignoresGaps_text.optional
  | categories => exact ignoresGaps_list ignoresGaps_text

namespace CreateRequest

def names : Names where
  known := ["mode", "promoCommon", "promoUnique", "maxCount", "description", "imageUrl", "target",
    "activeFrom", "activeUntil"]
  optional := ["promoCommon", "promoUnique", "maxCount", "imageUrl", "activeFrom", "activeUntil"]

theorem bears (levels : Nat) : shape.Bears levels names where
  complete := ⟨fun f => by cases f <;> rfl, fun _ => rfl⟩
  known := rfl
  optional name hname := by
    simp only [names, List.mem_cons, List.not_mem_nil, or_false] at hname
    rcases hname with rfl | rfl | rfl | rfl | rfl | rfl
    · exact ⟨.promoCommon, none, by decide, rfl, (reads_optional_null _).readBy_eq⟩
    · exact ⟨.promoUnique, none, by decide, rfl, (reads_optional_null _).readBy_eq⟩
    · exact ⟨.maxCount, none, by decide, rfl, (reads_optional_null _).readBy_eq⟩
    · exact ⟨.imageUrl, none, by decide, rfl, (reads_optional_null _).readBy_eq⟩
    · exact ⟨.activeFrom, none, by decide, rfl, (reads_optional_null _).readBy_eq⟩
    · exact ⟨.activeUntil, none, by decide, rfl, (reads_optional_null _).readBy_eq⟩

theorem grammatical (f : Field) (levels : Nat) : Grammatical (shape.read f levels) := by
  cases f with
  | mode | description => exact grammatical_text
  | promoCommon | imageUrl => exact grammatical_text.optional
  | promoUnique => exact grammatical_text.list.optional
  | maxCount => exact grammatical_int64.optional
  | target => exact Shape.grammatical_reader Target.grammatical levels
  | activeFrom | activeUntil => exact (grammatical_textAs _).optional

theorem ignoresGaps (f : Field) (levels : Nat) : IgnoresGaps (shape.read f levels) := by
  cases f with
  | mode | description => exact ignoresGaps_text
  | promoCommon | imageUrl => exact ignoresGaps_text.optional
  | promoUnique => exact (ignoresGaps_list ignoresGaps_text).optional
  | maxCount => exact ignoresGaps_int64.optional
  | target => exact Shape.ignoresGaps_reader Target.ignoresGaps levels
  | activeFrom | activeUntil => exact (ignoresGaps_textAs _).optional

end CreateRequest

namespace UpdateRequest

def names : Names where
  known := ["description", "imageUrl", "target", "activeFrom", "activeUntil", "mode", "maxCount",
    "promoCommon", "promoUnique"]
  optional := ["imageUrl", "activeFrom", "activeUntil", "mode", "maxCount", "promoCommon",
    "promoUnique"]

theorem bears (levels : Nat) : shape.Bears levels names where
  complete := ⟨fun f => by cases f <;> rfl, fun _ => rfl⟩
  known := rfl
  optional name hname := by
    simp only [names, List.mem_cons, List.not_mem_nil, or_false] at hname
    rcases hname with rfl | rfl | rfl | rfl | rfl | rfl | rfl
    · exact ⟨.imageUrl, none, by decide, rfl, (reads_optional_null _).readBy_eq⟩
    · exact ⟨.activeFrom, none, by decide, rfl, (reads_optional_null _).readBy_eq⟩
    · exact ⟨.activeUntil, none, by decide, rfl, (reads_optional_null _).readBy_eq⟩
    · exact ⟨.mode, none, by decide, rfl, (reads_optional_null _).readBy_eq⟩
    · exact ⟨.maxCount, none, by decide, rfl, (reads_optional_null _).readBy_eq⟩
    · exact ⟨.promoCommon, none, by decide, rfl, (reads_optional_null _).readBy_eq⟩
    · exact ⟨.promoUnique, none, by decide, rfl, (reads_optional_null _).readBy_eq⟩

theorem grammatical (f : Field) (levels : Nat) : Grammatical (shape.read f levels) := by
  cases f with
  | description => exact grammatical_text
  | imageUrl => exact grammatical_text.optional
  | target => exact Shape.grammatical_reader Target.grammatical levels
  | activeFrom | activeUntil => exact (grammatical_textAs _).optional
  | mode | maxCount | promoCommon | promoUnique => exact (grammatical_value levels).optional

theorem ignoresGaps (f : Field) (levels : Nat) : IgnoresGaps (shape.read f levels) := by
  cases f with
  | description => exact ignoresGaps_text
  | imageUrl => exact ignoresGaps_text.optional
  | target => exact Shape.ignoresGaps_reader Target.ignoresGaps levels
  | activeFrom | activeUntil => exact (ignoresGaps_textAs _).optional
  | mode | maxCount | promoCommon | promoUnique => exact (ignoresGaps_value levels).optional

end UpdateRequest

/-- Requests of a shape are read by name only if one of its fields is their target. -/
theorem readByName_of_bears {Field : Type} [DecidableEq Field] {Content : Field → Type} {α : Type}
    {shape : Shape Field Content α} {request : Names}
    (hgrammar : ∀ f levels, Grammatical (shape.read f levels))
    (hreads : ∀ f levels, IgnoresGaps (shape.read f levels))
    (hbears : ∀ levels, shape.Bears levels request) {f : Field}
    (hname : (shape.fields.find? fun f => shape.name f == "target") = some f)
    (htarget : ∀ levels, Nominal Target.names fun ms =>
      (Tree.object ms).readBy (shape.read f (levels + 1))) :
    ReadByName (Json.parse shape.reader) request := by
  have hrecord (ms : List Member) :
      (Tree.object ms).readBy (shape.reader maxLevels) = shape.record (maxLevels - 1) ms :=
    (Shape.reads_object (fun f => hreads f _) ms).readBy_eq
  have hparse (s : String) (t : Tree) (hs : Writes s t) :
      Json.parse shape.reader s = t.readBy (shape.reader maxLevels) :=
    parse_eq (Shape.ignoresGaps_reader hreads _) hs
  refine readByName_of_nominal (fun s a h => exists_writes (Shape.grammatical_reader hgrammar _) h)
    hparse fun names place hplace => ?_
  cases hplace with
  | request =>
    simp only [hrecord]
    exact Shape.nominal_record (hbears _)
  | target before after hkey =>
    simp only [hrecord]
    exact Shape.nominal_value (hbears 0).complete (fun _ => ⟨_, hkey, hname⟩) (htarget _)

theorem Target.nominal (levels : Nat) : Nominal Target.names fun ms =>
    (Tree.object ms).readBy (Target.shape.reader (levels + 1)) := by
  have hrecord (ms : List Member) : (Tree.object ms).readBy (Target.shape.reader (levels + 1)) =
      Target.shape.record levels ms :=
    (Shape.reads_object (fun f => Target.ignoresGaps f _) ms).readBy_eq
  simp only [hrecord]
  exact Shape.nominal_record (Target.bears levels)

/-- Requests for new promotions and for changes are read by the names of their members only. -/
theorem requests_are_read_by_name : ReadByName CreateRequest.parse CreateRequest.names ∧
    ReadByName UpdateRequest.parse UpdateRequest.names :=
  ⟨readByName_of_bears CreateRequest.grammatical CreateRequest.ignoresGaps CreateRequest.bears
      (f := .target) (by decide) Target.nominal,
    readByName_of_bears UpdateRequest.grammatical UpdateRequest.ignoresGaps UpdateRequest.bears
      (f := .target) (by decide) Target.nominal⟩

def commonMode : Member := (spelled "mode", .text (spelled "COMMON"))

/-- A member that has the name of the mode, with a number that no reader keeps. -/
def hugeMode : Member := (spelled "mode", .number {
  negative := false
  whole := ['1']
  fraction := none
  exponent := some
    { letter := 'e'
      sign := []
      digits := ['9', '9', '9']
      letter_eq := Or.inl rfl
      sign_eq := Or.inl rfl
      digits_ok := ⟨List.cons_ne_nil _ _, List.all_eq_true.mp (by decide)⟩ }
  whole_ok := ⟨List.cons_ne_nil _ _, List.all_eq_true.mp (by decide)⟩
  whole_eq := by decide
  fraction_ok := fun _ h => by cases h })

theorem parse_members {ms : List Member} {s : String} (h : Writes s (.object ms)) :
    CreateRequest.parse s = CreateRequest.shape.record (maxLevels - 1) ms := by
  rw [CreateRequest.parse, parse_eq (Shape.ignoresGaps_reader CreateRequest.ignoresGaps _) h]
  exact (Shape.reads_object (fun f => CreateRequest.ignoresGaps f _) ms).readBy_eq

theorem commonMode_gives : CreateRequest.shape.Gives commonMode .mode :=
  ⟨"mode", by decide +kernel, by decide⟩

theorem hugeMode_gives : CreateRequest.shape.Gives hugeMode .mode :=
  ⟨"mode", by decide +kernel, by decide⟩

theorem give_commonMode : CreateRequest.shape.give (maxLevels - 1) Given.empty commonMode =
    .ok (Given.empty.set CreateRequest.Field.mode "COMMON") := by
  have hvalue : commonMode.2.readBy text = .ok "COMMON" := by
    rw [commonMode, (reads_text _).readBy_eq]
    decide +kernel
  rw [Shape.give_of_gives commonMode_gives rfl]
  exact congrArg (Except.map _) hvalue

def openTarget (ms : List Member) : Member := (spelled "target", .object ms)

def commonText : String := "\x7b\"mode\":\"COMMON\",\"target\":\x7b\x7d\x7d"

/-- The same request with its target in front of its mode, a null in the target and a member that no
request has. -/
def rearrangedText : String :=
  " \x7b\"target\":\x7b\"country\":null\x7d,\"x\":[null],\"mode\":\"COMMON\"\x7d"

def repeatedText : String :=
  "\x7b\"mode\":\"COMMON\",\"target\":\x7b\x7d,\"mode\":\"COMMON\"\x7d"

theorem writes_commonText : Writes commonText (.object [commonMode, openTarget []]) :=
  writes_of_flatten (by decide +kernel)

theorem exists_parse_commonText : ∃ r, CreateRequest.parse commonText = .ok r := by
  obtain ⟨target, htarget⟩ := Shape.exists_ofMembers (Target.bears 0).complete Given.empty
  have hvalue : (openTarget []).2.readBy (Target.shape.reader (maxLevels - 1)) = .ok target :=
    (Shape.reads_object (fun f => Target.ignoresGaps f _) []).readBy_eq.trans htarget
  have htarget : CreateRequest.shape.give (maxLevels - 1)
      (Given.empty.set CreateRequest.Field.mode "COMMON") (openTarget []) =
        .ok ((Given.empty.set CreateRequest.Field.mode "COMMON").set .target target) := by
    rw [Shape.give_of_gives (f := .target) ⟨"target", by decide +kernel, by decide⟩ rfl]
    exact congrArg (Except.map _) hvalue
  obtain ⟨r, hr⟩ := Shape.exists_ofMembers (CreateRequest.bears 0).complete
    ((Given.empty.set CreateRequest.Field.mode "COMMON").set .target target)
  refine ⟨r, ?_⟩
  rw [parse_members writes_commonText]
  simp only [Shape.record, List.foldlM_cons, List.foldlM_nil, give_commonMode, bind, Except.bind,
    htarget]
  exact hr

/-- Rearranged, the request is understood as before. With its mode repeated, it is refused. -/
theorem common_request_rearranged : ∃ r, CreateRequest.parse commonText = .ok r ∧
    CreateRequest.parse rearrangedText = .ok r ∧
      CreateRequest.parse repeatedText = .error .mismatch := by
  let restricted := openTarget [(spelled "country", .null)]
  let unknown : Member := (spelled "x", .array [.null])
  have hrearranged : Writes rearrangedText (.object [restricted, unknown, commonMode]) := by
    have hchars : rearrangedText.toList =
        [' '] ++ (Tree.object [restricted, unknown, commonMode]).tokens.flatten := by
      decide +kernel
    have hgap : IsGap [' '] := fun c hc => by
      obtain rfl := List.mem_singleton.mp hc
      decide
    rw [Writes, hchars]
    exact (spaced_flatten _).gap_append hgap
  have hplain : Writes commonText (.object ([] ++ commonMode :: ([openTarget []] ++ []))) :=
    writes_commonText
  have hrepeated : Writes repeatedText
      (.object ([] ++ commonMode :: ([openTarget []] ++ commonMode :: []))) :=
    writes_of_flatten (by decide +kernel)
  have htext : Piece.text? commonMode.1 = some "mode" := by decide +kernel
  have hcountry : Piece.text? (spelled "country") = some "country" := by decide +kernel
  have htarget : Piece.text? (spelled "target") = some "target" := by decide +kernel
  have hunknown : Piece.text? unknown.1 = some "x" := by decide +kernel
  have hinner : Rearranged Target.names ([] ++ []) ([] ++ (spelled "country", .null) :: []) :=
    .null [] [] hcountry (by decide) fun _ h => by cases h
  have hplace : Place CreateRequest.names Target.names fun ms =>
      .object ([commonMode] ++ (spelled "target", .object ms) :: []) := .target _ _ htarget
  have hnull : Changed CreateRequest.names (.object [commonMode, openTarget []])
      (.object [commonMode, restricted]) := (Changed.mk hplace hinner :)
  have hmoved : Changed CreateRequest.names (.object [commonMode, restricted])
      (.object [restricted, commonMode]) := .mk .request (.moved (.swap _ _ _))
  have hother : Changed CreateRequest.names (.object [restricted, commonMode])
      (.object [restricted, unknown, commonMode]) :=
    .mk .request (.other [restricted] [commonMode] hunknown (by decide))
  obtain ⟨r, hr⟩ := exists_parse_commonText
  exact ⟨r, hr,
    requests_are_read_by_name.1.changed
      (((Relation.ReflTransGen.single hnull).tail hmoved).tail hother)
      writes_commonText hrearranged hr,
    requests_are_read_by_name.1.repeated .request (by decide) htext htext hplain hrepeated hr⟩

/-- A repetition in front of the member can make another fault than a mismatch. -/
theorem repetition_can_be_malformed :
    (∃ r, CreateRequest.parse "\x7b\"mode\":\"COMMON\"\x7d" = .ok r) ∧
      CreateRequest.parse "\x7b\"mode\":1e999,\"mode\":\"COMMON\"\x7d" = .error .malformed := by
  have hplain : Writes "\x7b\"mode\":\"COMMON\"\x7d" (.object [commonMode]) :=
    writes_of_flatten (by decide +kernel)
  have hrepeated : Writes "\x7b\"mode\":1e999,\"mode\":\"COMMON\"\x7d"
      (.object [hugeMode, commonMode]) := writes_of_flatten (by decide +kernel)
  have hhuge : hugeMode.2.readBy text = .error .malformed := by
    rw [hugeMode, (reads_text_other fun _ h => by cases h).readBy_eq]
    decide +kernel
  rw [parse_members hplain, parse_members hrepeated]
  constructor
  · obtain ⟨r, hr⟩ := Shape.exists_ofMembers (CreateRequest.bears 0).complete
      (Given.empty.set CreateRequest.Field.mode "COMMON")
    refine ⟨r, ?_⟩
    rw [Shape.record, List.foldlM_cons, give_commonMode]
    exact hr
  · have hrefused : CreateRequest.shape.give (maxLevels - 1) Given.empty hugeMode =
        .error .malformed := by
      rw [Shape.give_of_gives hugeMode_gives rfl]
      exact congrArg (Except.map _) hhuge
    rw [Shape.record, List.foldlM_cons, hrefused]
    rfl

end Promotions
