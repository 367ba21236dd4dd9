import Promotions.Proofs.Stores

/-!
Changes to a store, promotion by promotion. Whatever an operation does to a promotion is told by
what the store has of it, so it is the same wherever two stores have the same of it. Changes to
different promotions may come in either order, and so may a change to the content of a promotion and
an activation of it.
-/

namespace Promotions.Memory

/-! ### Changes to one promotion -/

namespace Store

def editAt (x : Uuid) (change : Promotion → Option Promotion) (p : Promotion) : Option Promotion :=
  if p.id = x then change p else some p

/-- The store with a promotion changed or taken out. -/
def edit (s : Store) (x : Uuid) (change : Promotion → Option Promotion) : Store :=
  ⟨s.promotions.filterMap (editAt x change)⟩

def KeepsIds (change : Promotion → Option Promotion) : Prop :=
  ∀ p q, change p = some q → q.id = p.id

variable {x y : Uuid} {change change' : Promotion → Option Promotion} {p : Promotion}

theorem editAt_of_ne (change : Promotion → Option Promotion) (h : p.id ≠ x) :
    editAt x change p = some p :=
  if_neg h

theorem editAt_self (change : Promotion → Option Promotion) (h : p.id = x) :
    editAt x change p = change p :=
  if_pos h

theorem edit_some (s : Store) (x : Uuid) : s.edit x some = s := by
  have hsame : editAt x some = some := funext fun p => ite_self _
  rw [edit, hsame, List.filterMap_some]

theorem modify_eq_edit (s : Store) (x : Uuid) (change : Promotion → Promotion) :
    s.modify x change = s.edit x fun p => some (change p) := by
  rw [modify, edit, ← List.filterMap_eq_map]
  congr 2
  funext p
  simp only [Function.comp, editAt]
  split <;> rfl

theorem remove_eq_edit (s : Store) (x : Uuid) : s.remove x = s.edit x fun _ => none := by
  rw [remove, edit, ← List.filterMap_eq_filter]
  congr 2
  funext p
  by_cases hp : p.id = x <;> simp [Option.guard, editAt, hp]

/-- Two changes to a promotion are one. -/
theorem edit_edit (s : Store) (x : Uuid) (hids : KeepsIds change) :
    (s.edit x change).edit x change' = s.edit x fun p => (change p).bind change' := by
  simp only [edit, List.filterMap_filterMap]
  congr 2
  funext p
  by_cases hp : p.id = x
  · rw [editAt_self change hp, editAt_self _ hp]
    cases hchanged : change p with
    | none => rfl
    | some q => exact editAt_self change' ((hids p q hchanged).trans hp)
  · rw [editAt_of_ne change hp, editAt_of_ne _ hp]
    exact editAt_of_ne change' hp

/-- A change to another promotion, before or after, does not count. -/
theorem editAt_bind_of_ne (hne : x ≠ y) (hids : KeepsIds change)
    (change' : Promotion → Option Promotion) (hp : p.id = x) :
    (editAt x change p).bind (editAt y change') = change p ∧
      (editAt y change' p).bind (editAt x change) = change p := by
  have hother : p.id ≠ y := hp ▸ hne
  rw [editAt_self change hp, editAt_of_ne change' hother]
  refine ⟨?_, editAt_self change hp⟩
  cases hchanged : change p with
  | none => rfl
  | some q => exact editAt_of_ne change' fun hq => hother ((hids p q hchanged).symm.trans hq)

/-- Changes to two promotions may come in either order. -/
theorem edit_comm (s : Store) (hne : x ≠ y) (hids : KeepsIds change) (hids' : KeepsIds change') :
    (s.edit x change).edit y change' = (s.edit y change').edit x change := by
  simp only [edit, List.filterMap_filterMap]
  congr 2
  funext p
  by_cases hx : p.id = x
  · obtain ⟨hbefore, hafter⟩ := editAt_bind_of_ne hne hids change' hx
    exact hbefore.trans hafter.symm
  · by_cases hy : p.id = y
    · obtain ⟨hbefore, hafter⟩ := editAt_bind_of_ne (Ne.symm hne) hids' change hy
      exact hafter.trans hbefore.symm
    · rw [editAt_of_ne change hx, editAt_of_ne change' hy]
      exact (editAt_of_ne change' hy).trans (editAt_of_ne change hx).symm

variable {s s' t t' : Store}

/-- The same change to what two stores have of a promotion. -/
structure SameChange (x : Uuid) (s s' t t' : Store) : Prop where
  found : s'.find? x = t'.find? x
  edits : ∃ change, KeepsIds change ∧ s' = s.edit x change ∧ t' = t.edit x change

namespace SameChange

theorem refl (h : s.find? x = t.find? x) : SameChange x s s t t :=
  ⟨h, some, fun _ _ hp => congrArg (·.id) (Option.some.inj hp).symm, (edit_some s x).symm,
    (edit_some t x).symm⟩

/-- Changes one after the other are one change. -/
theorem trans {s'' t'' : Store} (h : SameChange x s s' t t') (h' : SameChange x s' s'' t' t'') :
    SameChange x s s'' t t'' := by
  obtain ⟨-, change, hids, rfl, rfl⟩ := h
  obtain ⟨hfound, change', hids', rfl, rfl⟩ := h'
  refine ⟨hfound, fun p => (change p).bind change', fun p q hq => ?_, edit_edit s x hids,
    edit_edit t x hids⟩
  obtain ⟨r, hr, hq⟩ := Option.bind_eq_some_iff.mp hq
  exact (hids' r q hq).trans (hids p r hr)

theorem modify (h : s.find? x = t.find? x) {change : Promotion → Promotion}
    (hids : ∀ p, (change p).id = p.id) :
    SameChange x s (s.modify x change) t (t.modify x change) := by
  refine ⟨?_, fun p => some (change p), fun p q hq => Option.some.inj hq ▸ hids p,
    modify_eq_edit .., modify_eq_edit ..⟩
  rw [find?_modify s x x hids, find?_modify t x x hids, h]

theorem remove (h : s.find? x = t.find? x) : SameChange x s (s.remove x) t (t.remove x) := by
  refine ⟨?_, fun _ => none, fun _ _ hq => (by cases hq), remove_eq_edit .., remove_eq_edit ..⟩
  rw [find?_remove, find?_remove, h]

/-- Changes to two promotions, each the same before and after the other one, leave the same store
behind. -/
theorem comm {s₁ s₂ s₁₂ s₂₁ : Store} (hne : x ≠ y) (h : SameChange x s₂ s₂₁ s s₁)
    (h' : SameChange y s₁ s₁₂ s s₂) : s₁₂ = s₂₁ := by
  obtain ⟨-, change, hids, rfl, rfl⟩ := h
  obtain ⟨-, change', hids', rfl, rfl⟩ := h'
  exact edit_comm s hne hids hids'

end SameChange

theorem owned_congr (h : s.find? x = t.find? x) (company : Uuid) :
    s.owned x company = t.owned x company := by
  rw [owned, owned, h]

/-- An update does the same to a promotion in any two stores that have the same of it. -/
theorem update_sameChange (h : s.find? x = t.find? x) (company : Uuid) (content : Content) :
    (s.update x company content).1 = (t.update x company content).1 ∧
      SameChange x s (s.update x company content).2 t (t.update x company content).2 := by
  rw [update, update, owned_congr h]
  cases t.owned x company with
  | error f => exact ⟨rfl, .refl h⟩
  | ok u => exact ⟨rfl, .modify h fun _ => rfl⟩

/-- So does a deletion. -/
theorem delete_sameChange (h : s.find? x = t.find? x) (company : Uuid) :
    (s.delete x company).1 = (t.delete x company).1 ∧
      SameChange x s (s.delete x company).2 t (t.delete x company).2 := by
  rw [delete, delete, owned_congr h]
  cases t.owned x company with
  | error f => exact ⟨rfl, .refl h⟩
  | ok u => exact ⟨rfl, .remove h⟩

/-- An activation with a gate whose decision depends on promotion and code alone. -/
theorem activate_sameChange (h : s.find? x = t.find? x) (refuses : Uuid → String → Bool) :
    let gate (id : Uuid) (code : String) (g : Unit) := (refuses id code, g)
    (s.activate gate x ()).1 = (t.activate gate x ()).1 ∧
      SameChange x s (s.activate gate x ()).2.1 t (t.activate gate x ()).2.1 := by
  intro gate
  rw [activate, activate, h]
  cases t.find? x with
  | none => exact ⟨rfl, .refl h⟩
  | some p =>
    cases hnext : nextCode? p.codes with
    | none => simp [hnext, SameChange.refl h]
    | some code =>
      simp only [hnext]
      split
      · exact ⟨rfl, .refl h⟩
      · exact ⟨rfl, .modify h fun _ => rfl⟩

/-! ### Changes to content and codes of the same promotion -/

/-- Changes that commute on promotions commute on stores. -/
theorem modify_comm (s : Store) (x : Uuid) {f g : Promotion → Promotion}
    (hf : ∀ p, (f p).id = p.id) (hg : ∀ p, (g p).id = p.id) (hcomm : ∀ p, f (g p) = g (f p)) :
    (s.modify x f).modify x g = (s.modify x g).modify x f := by
  simp only [Store.modify, List.map_map]
  congr 2
  funext p
  by_cases hp : p.id = x
  · simp only [Function.comp, hp, if_true, hf, hg, hcomm]
  · simp only [Function.comp, hp, if_false]

variable {f : Promotion → Promotion}

/-- Who may change a promotion is not changed by a change to what it is about. -/
theorem update_modify (s : Store) (company : Uuid) (content : Content) (hid : ∀ p, (f p).id = p.id)
    (hcompany : ∀ p, (f p).companyId = p.companyId)
    (hcontent : ∀ p, f { p with content } = { f p with content }) :
    (s.modify x f).update x company content =
      ((s.update x company content).1, (s.update x company content).2.modify x f) := by
  have howned : (s.modify x f).owned x company = s.owned x company := by
    rw [owned, owned, find?_modify s x x hid, if_pos rfl]
    cases s.find? x with
    | none => rfl
    | some p => simp only [Option.map_some, hcompany]
  rw [update, update, howned]
  cases s.owned x company with
  | error e => rfl
  | ok u =>
    exact congrArg _
      (modify_comm s x (g := fun p => { p with content }) hid (fun _ => rfl) hcontent)

/-- What an activation hands out depends on nothing but the codes. -/
theorem activate_modify (s : Store) (gate : Uuid → String → Unit → Bool × Unit)
    (hid : ∀ p, (f p).id = p.id) (hcodes : ∀ p, (f p).codes = p.codes)
    (hredeem : ∀ p, f { p with codes := redeemNext p.codes } =
      { f p with codes := redeemNext p.codes }) :
    (s.modify x f).activate gate x () =
      ((s.activate gate x ()).1, (s.activate gate x ()).2.1.modify x f, ()) := by
  rw [activate, activate, find?_modify s x x hid, if_pos rfl]
  cases s.find? x with
  | none => rfl
  | some p =>
    simp only [Option.map_some, hcodes]
    cases nextCode? p.codes with
    | none => rfl
    | some code =>
      simp only
      split
      · rfl
      · have hcomm (p : Promotion) : f { p with codes := redeemNext p.codes } =
            { f p with codes := redeemNext (f p).codes } := by
          rw [hredeem, hcodes]
        rw [modify_comm s x (g := fun p => { p with codes := redeemNext p.codes }) hid
          (fun _ => rfl) hcomm]

/-- An update changes the content of one promotion, or nothing. -/
theorem update_cases (s : Store) (x company : Uuid) (content : Content) :
    (s.update x company content).2 = s ∨
      (s.update x company content).2 = s.modify x fun p => { p with content } := by
  rw [update]
  cases s.owned x company with
  | error f => exact Or.inl rfl
  | ok u => exact Or.inr rfl

/-- An activation redeems the next code of one promotion, or changes nothing. -/
theorem activate_cases (s : Store) (gate : Uuid → String → Unit → Bool × Unit) (x : Uuid) :
    (s.activate gate x ()).2.1 = s ∨
      (s.activate gate x ()).2.1 = s.modify x fun p => { p with codes := redeemNext p.codes } := by
  rw [activate]
  cases s.find? x with
  | none => exact Or.inl rfl
  | some p =>
    dsimp only
    cases nextCode? p.codes with
    | none => exact Or.inl rfl
    | some code =>
      dsimp only
      split
      · exact Or.inl rfl
      · exact Or.inr rfl

/-- Content may be replaced before or after an activation of the same promotion. -/
theorem update_activate_comm (s : Store) (gate : Uuid → String → Unit → Bool × Unit)
    (x company : Uuid) (content : Content) :
    ((s.activate gate x ()).2.1.update x company content).1 = (s.update x company content).1 ∧
      ((s.update x company content).2.activate gate x ()).1 = (s.activate gate x ()).1 ∧
      ((s.activate gate x ()).2.1.update x company content).2 =
        ((s.update x company content).2.activate gate x ()).2.1 := by
  have hactivate := s.activate_modify gate (x := x) (f := fun p => { p with content })
    (fun _ => rfl) (fun _ => rfl) fun _ => rfl
  have hupdate := s.update_modify company content (x := x)
    (f := fun p => { p with codes := redeemNext p.codes }) (fun _ => rfl) (fun _ => rfl)
    fun _ => rfl
  rcases s.update_cases x company content with hkept | hreplaced <;>
    rcases s.activate_cases gate x with hleft | hredeemed
  · rw [hkept, hleft]
    exact ⟨rfl, rfl, hkept⟩
  · rw [hkept, hredeemed, hupdate, hkept]
    exact ⟨rfl, rfl, rfl⟩
  · rw [hreplaced, hleft, hactivate, hleft]
    exact ⟨rfl, rfl, hreplaced⟩
  · rw [hreplaced, hredeemed, hactivate, hupdate, hreplaced, hredeemed]
    exact ⟨rfl, rfl, modify_comm s x (fun _ => rfl) (fun _ => rfl) fun _ => rfl⟩

end Store

end Promotions.Memory
