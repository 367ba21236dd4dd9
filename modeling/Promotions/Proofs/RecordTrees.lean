import Promotions.Proofs.Spacing

/-!
Records and their trees. A record is read from the members of an object one after another, each by
its name, or from the items of an array by their positions, without regard to the white space
between them; and what is made of a whole text is what is made of the tree that it writes.
-/

namespace Promotions.Json

namespace Shape

variable {Field : Type} [DecidableEq Field] {Content : Field → Type} {α : Type}
  (shape : Shape Field Content α)

/-- The fields given so far with what one more member of an object gives. -/
def give (levels : Nat) (g : Given Content) (m : Member) : Except Fault (Given Content) := do
  let name ← Piece.read m.1
  match shape.fields.find? fun f => shape.name f == name with
  | none => .ok g
  | some f =>
    if (g f).isSome then .error .mismatch
    else (m.2.readBy (shape.read f levels)).map fun v => g.set f v

/-- The fields given so far with what the items of an array give. -/
def fill (levels : Nat) : List Field → Given Content → List Tree → Except Fault (Given Content)
  | [], g, [] => .ok g
  | [], _, _ :: _ => .error .malformed
  | f :: fs, g, t :: ts => do
    let v ← t.readBy (shape.read f levels)
    fill levels fs (g.set f v) ts
  | f :: fs, g, [] =>
    match (shape.absent f).inArray? with
    | some v => fill levels fs (g.set f v) []
    | none => .error .mismatch

def ofItems (g : Given Content) : Except Fault α :=
  match shape.assemble g with
  | some a => .ok a
  | none => .error .mismatch

variable {shape} {levels : Nat}

theorem takes_give (hread : ∀ f, IgnoresGaps (shape.read f levels)) (g : Given Content)
    (m : Member) : Takes Piece.read (shape.member levels) g m (shape.give levels g m) := by
  refine takes_of_key fun name _ => ?_
  unfold Shape.member
  cases shape.fields.find? fun f => shape.name f == name with
  | none =>
    refine Or.inr ⟨_, rfl, fun tokens cs hends h => ?_⟩
    obtain ⟨rest, hskip, hrest⟩ := exists_skipValue hends h
    simp only [hskip, bind, Except.bind]
    exact .ok hrest
  | some f =>
    simp only
    split
    · exact Or.inl ⟨_, rfl, rfl⟩
    · exact Or.inr ⟨_, rfl, fun tokens cs hends h =>
        ((hread f).reads m.2 tokens cs hends h).map fun v => g.set f v⟩

/-- The members of an object are read one by one, wherever the object stands. -/
theorem reads_object (hread : ∀ f, IgnoresGaps (shape.read f levels)) (ms : List Member) :
    Reads (shape.reader (levels + 1)) (.object ms)
      (ms.foldlM (shape.give levels) Given.empty >>= shape.ofMembers) :=
  reads_of_opens fun tokens cs _ hopens => by
    unfold reader
    generalize skipGaps cs = ds at hopens
    cases hopens with
    | object hrest =>
      have hmembers := leaves_objectRest textBody_body (fun g m _ => takes_give hread g m)
        (Opens.object hrest).length_members (s := Given.empty) hrest
      exact hmembers.bind fun g rest hrest' => .of_eq hrest' (by
        simp only
        cases shape.ofMembers g <;> rfl)

/-- The items that are left do not start with the end of the array. -/
theorem head_ne_close_of_spaced {first : Bool} {t : Tree} {ts : List Tree} {tokens : List Token}
    {cs : List Char} (h : Spaced (separated first ((t :: ts).map Tree.tokens) ++ tokens) cs) :
    ∃ c rest, skipGaps cs = c :: rest ∧ c ≠ ']' := by
  obtain ⟨c, token, part, ht, hgap, hne, -⟩ := t.exists_tokens
  rw [List.map_cons, ht] at h
  cases first with
  | true =>
    rw [separated_cons_first] at h
    obtain ⟨rest, hcs, -⟩ := h.skipGaps_eq hgap
    exact ⟨c, _, hcs, hne⟩
  | false =>
    rw [separated_cons] at h
    obtain ⟨rest, hcs, -⟩ := h.skipGaps_eq (by decide)
    exact ⟨',', _, hcs, by decide⟩

/-- Behind the last field no item may follow. -/
theorem leaves_items (hread : ∀ f, IgnoresGaps (shape.read f levels)) {tokens : List Token}
    {fs : List Field} {g : Given Content} {ts : List Tree} {first : Bool} {cs : List Char}
    (h : Spaced (separated first (ts.map Tree.tokens) ++ [']'] :: tokens) cs) :
    Leaves tokens (shape.fill levels fs g ts) (shape.items levels fs first g cs) := by
  induction fs generalizing g ts first cs with
  | nil =>
    cases ts with
    | nil =>
      rw [List.map_nil, separated_nil, List.nil_append] at h
      obtain ⟨rest, hcs, hrest⟩ := h.skipGaps_eq (by decide)
      simp only [items, hcs, List.nil_append]
      exact .ok hrest
    | cons t ts =>
      obtain ⟨c, rest, hcs, hne⟩ := head_ne_close_of_spaced h
      unfold items
      rw [hcs]
      split
      · rename_i heq
        exact absurd (List.cons.inj heq).1 hne
      · rename_i heq
        cases heq
      · exact .error
  | cons f fs ih =>
    cases ts with
    | nil =>
      -- The end is looked at but not taken: it is there for the fields that are left as well.
      have hclose := h
      rw [List.map_nil, separated_nil, List.nil_append] at hclose
      obtain ⟨rest, hnext, -⟩ := next_close_of_spaced (by decide) first hclose
      simp only [items, fill, hnext, bind, Except.bind]
      cases (shape.absent f).inArray? with
      | none => exact .error
      | some v => exact ih h
    | cons t ts =>
      obtain ⟨c, token, part, ht, hgap, hne, -⟩ := t.exists_tokens
      rw [List.map_cons, ht] at h
      obtain ⟨rest, hnext, hrest⟩ := next_item_of_spaced ']' (by decide) hgap hne h
      have hspaced : Spaced
          (t.tokens ++ (separated false (ts.map Tree.tokens) ++ [']'] :: tokens))
          (c :: (token ++ rest)) := by
        rw [ht]
        exact .cons isGap_nil hrest
      have hvalue := (hread f).reads t _ _ (ends_separated (Or.inl rfl) _ _) hspaced
      simp only [items, fill, hnext]
      exact hvalue.bind fun v rest' hrest' => ih hrest'

/-- The items of an array are read as the fields of a record, in their order. -/
theorem reads_array (hread : ∀ f, IgnoresGaps (shape.read f levels)) (ts : List Tree) :
    Reads (shape.reader (levels + 1)) (.array ts)
      (shape.fill levels shape.fields Given.empty ts >>= shape.ofItems) :=
  reads_of_opens fun tokens cs _ hopens => by
    unfold reader
    generalize skipGaps cs = ds at hopens
    cases hopens with
    | array hrest =>
      exact (leaves_items hread hrest).bind fun g rest hrest' => .of_eq hrest' (by
        simp only [ofItems]
        cases shape.assemble g <;> rfl)

/-- Records are read from objects and arrays only. -/
theorem reads_other {t : Tree} (harray : ∀ ts, t ≠ .array ts) (hobject : ∀ ms, t ≠ .object ms) :
    Reads (shape.reader levels) t (.error t.misfit) :=
  reads_of_opens fun tokens cs hends hopens => by
    have hfault := wrongShape_eq hends hopens
    obtain ⟨c, rest, hcs, hstarts⟩ := hopens.starts
    have hbracket : c ≠ '[' := by
      rintro rfl
      obtain ⟨ts, rfl⟩ := hstarts.exists_array
      exact harray ts rfl
    have hbrace : c ≠ '\x7b' := by
      rintro rfl
      obtain ⟨ms, rfl⟩ := hstarts.exists_object
      exact hobject ms rfl
    rw [hcs] at hfault
    unfold reader
    rw [hcs]
    split
    · rename_i heq
      exact absurd (List.cons.inj heq).1 hbracket
    · rename_i heq
      exact absurd (List.cons.inj heq).1 hbrace
    · rename_i heq
      exact absurd (List.cons.inj heq).1 hbracket
    · rename_i heq
      exact absurd (List.cons.inj heq).1 hbrace
    · rw [hfault]
      exact .error

/-- A record inside too many arrays and objects. -/
theorem too_deep {t : Tree} (h : (∃ ts, t = .array ts) ∨ ∃ ms, t = .object ms) :
    Reads (shape.reader 0) t (.error .malformed) :=
  reads_of_opens fun tokens cs _ hopens => by
    unfold reader
    generalize skipGaps cs = ds at hopens
    rcases h with ⟨ts, rfl⟩ | ⟨ms, rfl⟩
    · cases hopens with
      | array => exact .error
    · cases hopens with
      | object => exact .error

/-- A record ignores gaps if its fields do. -/
theorem ignoresGaps_reader (hread : ∀ f levels, IgnoresGaps (shape.read f levels)) (levels : Nat) :
    IgnoresGaps (shape.reader levels) := fun t => by
  cases t with
  | array ts =>
    cases levels with
    | zero => exact ⟨.error .malformed, too_deep (Or.inl ⟨ts, rfl⟩)⟩
    | succ levels => exact ⟨_, reads_array (fun f => hread f levels) ts⟩
  | object ms =>
    cases levels with
    | zero => exact ⟨.error .malformed, too_deep (Or.inr ⟨ms, rfl⟩)⟩
    | succ levels => exact ⟨_, reads_object (fun f => hread f levels) ms⟩
  | null | bool | number | text =>
    exact ⟨_, reads_other (fun _ h => by cases h) fun _ h => by cases h⟩

end Shape

/-- What is made of a text is what is made of the tree that it writes. -/
theorem parse_eq {α : Type} {read : Nat → Reader α} (h : IgnoresGaps (read maxLevels)) {s : String}
    {t : Tree} (hs : Writes s t) : parse read s = t.readBy (read maxLevels) := by
  have hread := h.reads t [] s.toList ends_nil (by rwa [List.append_nil])
  unfold parse
  generalize read maxLevels s.toList = out at hread
  generalize t.readBy (read maxLevels) = res at hread
  cases hread with
  | ok hrest =>
    rename_i a rest
    have hnone : skipGaps rest = [] := by
      cases hrest with
      | nil hgap => exact List.dropWhile_eq_nil_iff.mpr hgap
    simp only [bind, Except.bind, hnone, List.isEmpty_nil, if_true]
  | error => rfl

end Promotions.Json
