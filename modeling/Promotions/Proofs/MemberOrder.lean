import Promotions.Proofs.Questions
import Promotions.Proofs.RecordTrees

/-!
The members of an object in any order. Each member gives a field of its own, so two that stand side
by side can change places; one with another name gives nothing; one that is null instead of missing
gives what the field has anyway; and one whose field is given already is refused for its name, before
its value is read.
-/

namespace Promotions.Json

namespace Given

variable {Field : Type} [DecidableEq Field] {Content : Field → Type}

theorem set_comm (g : Given Content) {f f' : Field} (v : Content f) (v' : Content f')
    (h : f ≠ f') : (g.set f v).set f' v' = (g.set f' v').set f v := by
  funext f''
  by_cases h₁ : f'' = f
  · subst h₁
    rw [set_of_ne _ _ h, set_self, set_self]
  · by_cases h₂ : f'' = f'
    · subst h₂
      rw [set_self, set_of_ne _ _ h₁, set_self]
    · rw [set_of_ne _ _ h₂, set_of_ne _ _ h₁, set_of_ne _ _ h₁, set_of_ne _ _ h₂]

end Given

namespace Shape

variable {Field : Type} [DecidableEq Field] {Content : Field → Type} {α : Type}
  (shape : Shape Field Content α)

def Gives (m : Member) (f : Field) : Prop :=
  ∃ name, Piece.text? m.1 = some name ∧
    (shape.fields.find? fun f => shape.name f == name) = some f

def PassesOver (m : Member) : Prop :=
  ∃ name, Piece.text? m.1 = some name ∧
    (shape.fields.find? fun f => shape.name f == name) = none

def record (levels : Nat) (ms : List Member) : Except Fault α :=
  ms.foldlM (shape.give levels) Given.empty >>= shape.ofMembers

variable {shape} {levels : Nat} {g g' g₁ g₂ : Given Content} {m m' : Member} {f f' : Field}
  {ms ms' : List Member}

omit [DecidableEq Field] in
/-- A member gives one field at most. -/
theorem Gives.unique (h : shape.Gives m f) (h' : shape.Gives m f') : f = f' := by
  obtain ⟨name, hname, hf⟩ := h
  obtain ⟨name', hname', hf'⟩ := h'
  rw [hname] at hname'
  obtain rfl := Option.some.inj hname'
  exact Option.some.inj (hf.symm.trans hf')

theorem give_of_passesOver (h : shape.PassesOver m) : shape.give levels g m = .ok g := by
  obtain ⟨name, hname, hnone⟩ := h
  simp only [give, Piece.read, hname, hnone, bind, Except.bind]

/-- The first member of a field gives what is read of its value. -/
theorem give_of_gives (h : shape.Gives m f) (hnew : g f = none) :
    shape.give levels g m = (m.2.readBy (shape.read f levels)).map fun v => g.set f v := by
  obtain ⟨name, hname, hf⟩ := h
  simp [give, Piece.read, hname, hf, hnew, bind, Except.bind]

/-- A second member of a field makes a mismatch, whatever its value is. -/
theorem give_repeated (h : shape.Gives m f) (hgiven : (g f).isSome = true) :
    shape.give levels g m = .error .mismatch := by
  obtain ⟨name, hname, hf⟩ := h
  simp [give, Piece.read, hname, hf, hgiven, bind, Except.bind]

/-- A member that is not refused is passed over or gives a field that is new. -/
theorem give_ok (h : shape.give levels g m = .ok g') :
    (shape.PassesOver m ∧ g' = g) ∨ ∃ f v, shape.Gives m f ∧ g f = none ∧
      m.2.readBy (shape.read f levels) = .ok v ∧ g' = g.set f v := by
  unfold give at h
  obtain ⟨name, hname, h⟩ := bind_ok h
  have hname : Piece.text? m.1 = some name := by
    unfold Piece.read at hname
    cases htext : Piece.text? m.1 with
    | none =>
      rw [htext] at hname
      cases hname
    | some s =>
      rw [htext] at hname
      cases hname
      rfl
  cases hfield : shape.fields.find? fun f => shape.name f == name with
  | none =>
    rw [hfield] at h
    cases h
    exact Or.inl ⟨⟨name, hname, hfield⟩, rfl⟩
  | some f =>
    rw [hfield] at h
    cases hgiven : g f with
    | some v => simp [hgiven] at h
    | none =>
      simp only [hgiven, Option.isSome_none, Bool.false_eq_true, if_false] at h
      cases hvalue : m.2.readBy (shape.read f levels) with
      | error e =>
        rw [hvalue] at h
        cases h
      | ok v =>
        rw [hvalue] at h
        cases h
        exact Or.inr ⟨f, v, ⟨name, hname, hfield⟩, hgiven, hvalue, rfl⟩

/-- A member that gives a field and is not refused gives it anew. -/
theorem Gives.new (hgives : shape.Gives m f) (h : shape.give levels g m = .ok g') :
    ∃ v, g f = none ∧ m.2.readBy (shape.read f levels) = .ok v ∧ g' = g.set f v := by
  rcases give_ok h with ⟨⟨name, hname, hnone⟩, -⟩ | ⟨f', v, hf', hnew, hvalue, rfl⟩
  · obtain ⟨name', hname', hsome⟩ := hgives
    rw [hname] at hname'
    obtain rfl := Option.some.inj hname'
    rw [hnone] at hsome
    cases hsome
  · obtain rfl := hgives.unique hf'
    exact ⟨v, hnew, hvalue, rfl⟩

/-- What is given stays given. -/
theorem give_mono (h : shape.give levels g m = .ok g') (hgiven : (g f).isSome = true) :
    (g' f).isSome = true := by
  rcases give_ok h with ⟨-, rfl⟩ | ⟨f', v, -, hnew, -, rfl⟩
  · exact hgiven
  · have hne : f ≠ f' := by
      rintro rfl
      rw [hnew] at hgiven
      cases hgiven
    rwa [Given.set_of_ne g v hne]

/-- What is given stays given to the end. -/
theorem foldlM_give_mono (h : ms.foldlM (shape.give levels) g = .ok g')
    (hgiven : (g f).isSome = true) : (g' f).isSome = true := by
  induction ms generalizing g with
  | nil =>
    cases h
    exact hgiven
  | cons m ms ih =>
    rw [List.foldlM_cons] at h
    obtain ⟨g₁, hfirst, hrest⟩ := bind_ok h
    exact ih hrest (give_mono hfirst hgiven)

/-- Two members that are not refused can change places. -/
theorem give_comm (h : shape.give levels g m = .ok g₁) (h' : shape.give levels g₁ m' = .ok g₂) :
    ∃ g', shape.give levels g m' = .ok g' ∧ shape.give levels g' m = .ok g₂ := by
  rcases give_ok h with ⟨hover, rfl⟩ | ⟨f, v, hgives, hnew, hvalue, rfl⟩
  · exact ⟨g₂, h', give_of_passesOver hover⟩
  · rcases give_ok h' with ⟨hover, rfl⟩ | ⟨f', v', hgives', hnew', hvalue', rfl⟩
    · exact ⟨g, give_of_passesOver hover, h⟩
    · -- The second one is not refused, so that its field is not that of the first one.
      have hne : f ≠ f' := by
        rintro rfl
        rw [Given.set_self] at hnew'
        cases hnew'
      rw [Given.set_of_ne g v hne.symm] at hnew'
      refine ⟨g.set f' v', ?_, ?_⟩
      · rw [give_of_gives hgives' hnew', hvalue']
        rfl
      · rw [give_of_gives hgives (by rwa [Given.set_of_ne g v' hne]), hvalue]
        exact congrArg Except.ok (Given.set_comm g v' v hne.symm)

/-- Members that are not refused can stand in any order. -/
theorem foldlM_give_perm (hperm : ms.Perm ms') (h : ms.foldlM (shape.give levels) g = .ok g') :
    ms'.foldlM (shape.give levels) g = .ok g' := by
  induction hperm generalizing g with
  | nil => exact h
  | cons m _ ih =>
    rw [List.foldlM_cons] at h ⊢
    obtain ⟨g₁, hfirst, hrest⟩ := bind_ok h
    rw [hfirst]
    exact ih hrest
  | swap m m' ms =>
    rw [List.foldlM_cons] at h
    obtain ⟨g₁, hfirst, h⟩ := bind_ok h
    rw [List.foldlM_cons] at h
    obtain ⟨g₂, hsecond, hrest⟩ := bind_ok h
    obtain ⟨g₃, hfirst', hsecond'⟩ := give_comm hfirst hsecond
    simp only [List.foldlM_cons, hfirst', bind, Except.bind, hsecond']
    exact hrest
  | trans _ _ ih ih' => exact ih' (ih h)

/-- A field that no member gives is not given. -/
theorem foldlM_give_absent (habsent : ∀ m ∈ ms, ¬shape.Gives m f)
    (h : ms.foldlM (shape.give levels) g = .ok g') : g' f = g f := by
  induction ms generalizing g with
  | nil =>
    cases h
    rfl
  | cons m ms ih =>
    obtain ⟨hm, hms⟩ := List.forall_mem_cons.mp habsent
    rw [List.foldlM_cons] at h
    obtain ⟨g₁, hfirst, hrest⟩ := bind_ok h
    rw [ih hms hrest]
    rcases give_ok hfirst with ⟨-, rfl⟩ | ⟨f', v, hgives, -, -, rfl⟩
    · rfl
    · exact Given.set_of_ne g v fun heq => hm (heq ▸ hgives)

variable {before between after : List Member}

/-- A member that gives a new field can be put anywhere. -/
theorem foldlM_give_insert {v : Content f} (hgives : shape.Gives m f) (hnew : g' f = none)
    (hvalue : m.2.readBy (shape.read f levels) = .ok v)
    (h : (before ++ after).foldlM (shape.give levels) g = .ok g') :
    (before ++ m :: after).foldlM (shape.give levels) g = .ok (g'.set f v) := by
  have hlast : (before ++ after ++ [m]).Perm (before ++ m :: after) :=
    (List.perm_append_singleton m (before ++ after)).trans List.perm_middle.symm
  refine foldlM_give_perm hlast ?_
  rw [List.foldlM_append, h]
  simp only [List.foldlM_cons, List.foldlM_nil, give_of_gives hgives hnew, hvalue, bind,
    Except.bind, Except.map]
  rfl

/-! ### Records of members -/

variable {a : α}

/-- The order of members makes no difference to what they give. -/
theorem record_perm (hperm : ms.Perm ms') (h : shape.record levels ms = .ok a) :
    shape.record levels ms' = .ok a := by
  obtain ⟨g, hgiven, hassemble⟩ := bind_ok h
  rw [record, foldlM_give_perm hperm hgiven]
  exact hassemble

/-- A member that gives no field makes no difference. -/
theorem record_passesOver (h : shape.PassesOver m) :
    shape.record levels (before ++ m :: after) = shape.record levels (before ++ after) := by
  simp only [record, List.foldlM_append, List.foldlM_cons, give_of_passesOver h, bind, Except.bind]

/-- A field can be null instead of missing if it is read as what stands for it anyway. -/
theorem record_null {v : Content f} (hgives : shape.Gives m f)
    (habsent : ∀ m' ∈ before ++ after, ¬shape.Gives m' f)
    (hvalue : m.2.readBy (shape.read f levels) = .ok v)
    (hdefault : (shape.absent f).inObject? = some v)
    (h : shape.record levels (before ++ after) = .ok a) :
    shape.record levels (before ++ m :: after) = .ok a := by
  obtain ⟨g, hgiven, hassemble⟩ := bind_ok h
  have hnew : g f = none := foldlM_give_absent habsent hgiven
  have hsame : (fun f' => ((g.set f v) f').orElse fun _ => (shape.absent f').inObject?) =
      fun f' => (g f').orElse fun _ => (shape.absent f').inObject? := by
    funext f'
    by_cases heq : f' = f
    · subst heq
      rw [Given.set_self, hnew, hdefault]
      rfl
    · rw [Given.set_of_ne g v heq]
  rw [record, foldlM_give_insert hgives hnew hvalue hgiven, ← hassemble]
  change shape.ofMembers (g.set f v) = shape.ofMembers g
  simp only [ofMembers, hsame]

/-- A member whose field is given in front of it makes a mismatch. -/
theorem record_repeated (hgives : shape.Gives m f) (hgives' : shape.Gives m' f)
    (h : shape.record levels (before ++ m :: (between ++ after)) = .ok a) :
    shape.record levels (before ++ m :: (between ++ m' :: after)) = .error .mismatch := by
  obtain ⟨g, hgiven, -⟩ := bind_ok h
  rw [List.foldlM_append] at hgiven
  obtain ⟨g₁, hbefore, hgiven⟩ := bind_ok hgiven
  rw [List.foldlM_cons] at hgiven
  obtain ⟨g₂, hm, hgiven⟩ := bind_ok hgiven
  rw [List.foldlM_append] at hgiven
  obtain ⟨g₃, hbetween, -⟩ := bind_ok hgiven
  have hset : (g₂ f).isSome = true := by
    obtain ⟨v, -, -, rfl⟩ := hgives.new hm
    rw [Given.set_self]
    rfl
  have hrefused : shape.give levels g₃ m' = .error .mismatch :=
    give_repeated hgives' (foldlM_give_mono hbetween hset)
  simp only [record, List.foldlM_append, List.foldlM_cons, hbefore, hm, hbetween, hrefused, bind,
    Except.bind]

/-- Every record has all that it needs. -/
def Complete (shape : Shape Field Content α) : Prop :=
  (∀ f, (shape.absent f).inObject?.isSome = true) ∧
    ∀ v : (f : Field) → Content f, (shape.assemble fun f => some (v f)).isSome = true

omit [DecidableEq Field] in
/-- If every field can be done without, there is a record of any fields. -/
theorem exists_ofMembers (hcomplete : shape.Complete) (g : Given Content) :
    ∃ a, shape.ofMembers g = .ok a := by
  have hvalue (f : Field) : ∃ v, ((g f).orElse fun _ => (shape.absent f).inObject?) = some v := by
    cases g f with
    | none => exact Option.isSome_iff_exists.mp (hcomplete.1 f)
    | some v => exact ⟨v, rfl⟩
  choose v hv using hvalue
  obtain ⟨a, ha⟩ := Option.isSome_iff_exists.mp (hcomplete.2 v)
  exact ⟨a, by simp only [ofMembers, hv, ha]⟩

/-- The other members are not refused, and give the field of this one no value. -/
theorem exists_others (hgives : shape.Gives m f)
    (h : shape.record levels (before ++ (between ++ m :: after)) = .ok a) :
    ∃ g, (before ++ (between ++ after)).foldlM (shape.give levels) Given.empty = .ok g ∧
      g f = none := by
  obtain ⟨g, hgiven, -⟩ := bind_ok h
  have hlast : (before ++ (between ++ m :: after)).Perm (before ++ (between ++ after) ++ [m]) := by
    rw [← List.append_assoc, ← List.append_assoc]
    exact List.perm_middle.trans (List.perm_append_singleton m _).symm
  have hend := foldlM_give_perm hlast hgiven
  rw [List.foldlM_append] at hend
  obtain ⟨g', hothers, hm⟩ := bind_ok hend
  rw [List.foldlM_cons] at hm
  obtain ⟨g'', hm, -⟩ := bind_ok hm
  exact ⟨g', hothers, (hgives.new hm).choose_spec.1⟩

/-- Why a text is refused that has one more member: for what is wrong without the other one, and else
because of the other one. -/
def refusal : Except Fault α → Fault
  | .error f => f
  | .ok _ => .mismatch

/-- A member that stands in front of another one for its field is refused for its own value, as it
would be without the other one, or else the other one is refused. -/
theorem record_repeated_inFront (hcomplete : shape.Complete) (hgives : shape.Gives m f)
    (hgives' : shape.Gives m' f)
    (h : shape.record levels (before ++ (between ++ m :: after)) = .ok a) :
    shape.record levels (before ++ m' :: (between ++ m :: after)) =
      .error (refusal (shape.record levels (before ++ m' :: (between ++ after)))) := by
  obtain ⟨g, hothers, hnew⟩ := exists_others hgives h
  cases hvalue : m'.2.readBy (shape.read f levels) with
  | error e =>
    rw [List.foldlM_append] at hothers
    obtain ⟨g₁, hbefore, hrest⟩ := bind_ok hothers
    have hnew₁ : g₁ f = none := by
      by_contra hsome
      have := foldlM_give_mono hrest (Option.isSome_iff_ne_none.mpr hsome)
      rw [hnew] at this
      cases this
    have hrefused : shape.give levels g₁ m' = .error e := by
      rw [give_of_gives hgives' hnew₁, hvalue]
      rfl
    simp only [record, List.foldlM_append, List.foldlM_cons, hbefore, hrefused, bind, Except.bind,
      refusal]
  | ok v =>
    obtain ⟨b, hb⟩ := exists_ofMembers hcomplete (g.set f v)
    have hother : shape.record levels (before ++ m' :: (between ++ after)) = .ok b := by
      rw [record, foldlM_give_insert hgives' hnew hvalue hothers]
      exact hb
    rw [hother, record_repeated hgives' hgives hother, refusal]

/-- A member can be replaced by another one with its value. -/
theorem record_same_value (hgives : shape.Gives m f) (hgives' : shape.Gives m' f)
    (hvalue : m'.2 = m.2) (h : shape.record levels (before ++ (between ++ m :: after)) = .ok a) :
    shape.record levels (before ++ m' :: (between ++ after)) = .ok a := by
  have hfront : shape.record levels (before ++ m :: (between ++ after)) = .ok a :=
    record_perm (List.perm_middle.append_left before) h
  obtain ⟨g, hgiven, hassemble⟩ := bind_ok hfront
  rw [List.foldlM_append] at hgiven
  obtain ⟨g₁, hbefore, hgiven⟩ := bind_ok hgiven
  rw [List.foldlM_cons] at hgiven
  obtain ⟨g₂, hm, hrest⟩ := bind_ok hgiven
  have hsame : shape.give levels g₁ m' = .ok g₂ := by
    obtain ⟨v, hnew, hread, rfl⟩ := hgives.new hm
    rw [give_of_gives hgives' hnew, hvalue, hread]
    rfl
  have hreplaced : (before ++ m' :: (between ++ after)).foldlM (shape.give levels) Given.empty =
      .ok g := by
    rw [List.foldlM_append, hbefore]
    change (m' :: (between ++ after)).foldlM (shape.give levels) g₁ = .ok g
    rw [List.foldlM_cons, hsame]
    exact hrest
  rw [record, hreplaced]
  exact hassemble

/-! ### Who gives a field -/

theorem foldlM_give_passesOver (h : ∀ m ∈ ms, shape.PassesOver m) :
    ms.foldlM (shape.give levels) g = .ok g := by
  induction ms with
  | nil => rfl
  | cons m ms ih =>
    obtain ⟨hm, hms⟩ := List.forall_mem_cons.mp h
    rw [List.foldlM_cons, give_of_passesOver hm]
    exact ih hms

/-- A member that does not give this field: it is passed over, or gives another one. -/
def Spares (shape : Shape Field Content α) (f : Field) (m : Member) : Prop :=
  shape.PassesOver m ∨ ∃ f', f' ≠ f ∧ shape.Gives m f'

/-- Behind the member that gives a field no other one has its name. -/
theorem spares_of_given {v : Content f} (h : ms.foldlM (shape.give levels) g = .ok g')
    (hgiven : g f = some v) : g' f = some v ∧ ∀ m ∈ ms, shape.Spares f m := by
  induction ms generalizing g with
  | nil =>
    cases h
    exact ⟨hgiven, fun _ hm => (by cases hm)⟩
  | cons m ms ih =>
    rw [List.foldlM_cons] at h
    obtain ⟨g₁, hfirst, hrest⟩ := bind_ok h
    rcases give_ok hfirst with ⟨hover, rfl⟩ | ⟨f', v', hgives, hnew, -, rfl⟩
    · obtain ⟨hend, hspares⟩ := ih hrest hgiven
      exact ⟨hend, List.forall_mem_cons.mpr ⟨Or.inl hover, hspares⟩⟩
    · have hne : f' ≠ f := by
        rintro rfl
        rw [hgiven] at hnew
        cases hnew
      obtain ⟨hend, hspares⟩ := ih hrest (by rwa [Given.set_of_ne g v' hne.symm])
      exact ⟨hend, List.forall_mem_cons.mpr ⟨Or.inr ⟨f', hne, hgives⟩, hspares⟩⟩

/-- A field that is given at the end was given by one member, and no other one has its name. -/
theorem exists_giver {v : Content f} (h : ms.foldlM (shape.give levels) g = .ok g')
    (hnew : g f = none) (hgiven : g' f = some v) :
    ∃ before m after, ms = before ++ m :: after ∧ shape.Gives m f ∧
      m.2.readBy (shape.read f levels) = .ok v ∧ ∀ m' ∈ before ++ after, shape.Spares f m' := by
  induction ms generalizing g with
  | nil =>
    cases h
    rw [hnew] at hgiven
    cases hgiven
  | cons m ms ih =>
    rw [List.foldlM_cons] at h
    obtain ⟨g₁, hfirst, hrest⟩ := bind_ok h
    -- Either this member gives the field, or one of those behind it does.
    have hlater (hspare : shape.Spares f m) (hnew₁ : g₁ f = none) :
        ∃ before m' after, m :: ms = before ++ m' :: after ∧ shape.Gives m' f ∧
          m'.2.readBy (shape.read f levels) = .ok v ∧
            ∀ m'' ∈ before ++ after, shape.Spares f m'' := by
      obtain ⟨before, m', after, rfl, hgives, hvalue, hspares⟩ := ih hrest hnew₁
      exact ⟨m :: before, m', after, rfl, hgives, hvalue,
        List.forall_mem_cons.mpr ⟨hspare, hspares⟩⟩
    rcases give_ok hfirst with ⟨hover, rfl⟩ | ⟨f', v', hgives, -, hvalue, rfl⟩
    · exact hlater (Or.inl hover) hnew
    · by_cases heq : f' = f
      · subst heq
        obtain ⟨hend, hspares⟩ := spares_of_given hrest (Given.set_self g f' v')
        rw [hgiven] at hend
        obtain rfl := Option.some.inj hend
        exact ⟨[], m, ms, rfl, hgives, hvalue, hspares⟩
      · exact hlater (Or.inr ⟨f', heq, hgives⟩) (by rwa [Given.set_of_ne g v' (Ne.symm heq)])

end Shape

end Promotions.Json
