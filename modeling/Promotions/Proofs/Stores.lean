import Promotions.Memory.Store

/-!
Stores, seen promotion by promotion: what each change does to the promotion with one identifier, and
that it leaves every other one as it is.
-/

namespace Promotions.Memory.Store

variable {s s' : Store} {id company x : Uuid}

theorem find?_remove (s : Store) (id x : Uuid) :
    (s.remove id).find? x = if x = id then none else s.find? x := by
  simp only [find?, remove, List.find?_filter]
  split
  · rename_i h
    subst h
    simp
  · rename_i h
    congr 1
    funext p
    by_cases hp : p.id = x <;> simp [hp, h]

theorem find?_insert (s : Store) (p : Promotion) (x : Uuid) :
    (s.insert p).find? x = if x = p.id then some p else s.find? x := by
  have happend :
      (s.insert p).find? x = ((s.remove p.id).find? x).or ([p].find? fun q => q.id = x) :=
    List.find?_append
  rw [happend, find?_remove]
  split
  · rename_i h
    simp [h]
  · rename_i h
    simp [Ne.symm h]

/-- A change to the promotion with one identifier, where the identifier stays. -/
theorem find?_modify (s : Store) (id x : Uuid) {change : Promotion → Promotion}
    (hid : ∀ p, (change p).id = p.id) :
    (s.modify id change).find? x = if x = id then (s.find? x).map change else s.find? x := by
  simp only [find?, modify]
  induction s.promotions with
  | nil => simp
  | cons p ps ih =>
    by_cases hp : p.id = x
    · subst hp
      by_cases hx : p.id = id <;> simp [hx, hid]
    · have hkept : ¬ (if p.id = id then change p else p).id = x := by
        split
        · rwa [hid]
        · exact hp
      rw [List.map_cons, List.find?_cons_of_neg (by simpa using hkept),
        List.find?_cons_of_neg (by simpa using hp), ih]

theorem find?_modify_of_ne (s : Store) {change : Promotion → Promotion} (h : x ≠ id)
    (hid : ∀ p, (change p).id = p.id) : (s.modify id change).find? x = s.find? x := by
  rw [find?_modify s id x hid, if_neg h]

theorem find?_insert_of_ne (s : Store) {p : Promotion} (h : x ≠ p.id) :
    (s.insert p).find? x = s.find? x := by
  rw [find?_insert, if_neg h]

theorem find?_update_of_ne (s : Store) (content : Content) (h : x ≠ id) :
    (s.update id company content).2.find? x = s.find? x := by
  unfold update
  cases s.owned id company with
  | error f => rfl
  | ok u => exact find?_modify_of_ne s h fun _ => rfl

theorem find?_delete_of_ne (s : Store) (h : x ≠ id) :
    (s.delete id company).2.find? x = s.find? x := by
  unfold delete
  cases s.owned id company with
  | error f => rfl
  | ok u => exact (find?_remove s id x).trans (if_neg h)

theorem find?_activate_of_ne {γ : Type} (s : Store) (refuse : Uuid → String → γ → Bool × γ) (g : γ)
    (h : x ≠ id) : (s.activate refuse id g).2.1.find? x = s.find? x := by
  unfold activate
  cases s.find? id with
  | none => rfl
  | some p =>
    cases hnext : nextCode? p.codes with
    | none => simp [hnext]
    | some code =>
      simp only [hnext]
      split
      · rfl
      · exact find?_modify_of_ne s h fun _ => rfl

/-! ### Who may change a promotion -/

theorem exists_of_owned (h : s.owned id company = .ok ()) :
    ∃ p, s.find? id = some p ∧ p.companyId = company := by
  unfold owned at h
  cases hfind : s.find? id with
  | none => simp [hfind] at h
  | some p =>
    rw [hfind] at h
    by_cases hp : p.companyId = company
    · exact ⟨p, rfl, hp⟩
    · simp [hp] at h

/-! ### Changes that fail -/

theorem update_of_error {content : Content} {f : Failure}
    (h : (s.update id company content).1 = .error f) : (s.update id company content).2 = s := by
  unfold update at h ⊢
  cases howned : s.owned id company with
  | error f => rfl
  | ok u => simp [howned] at h

theorem delete_of_error {f : Failure} (h : (s.delete id company).1 = .error f) :
    (s.delete id company).2 = s := by
  unfold delete at h ⊢
  cases howned : s.owned id company with
  | error f => rfl
  | ok u => simp [howned] at h

theorem activate_of_error {γ : Type} {refuse : Uuid → String → γ → Bool × γ} {g : γ} {f : Failure}
    (h : (s.activate refuse id g).1 = .error f) : (s.activate refuse id g).2.1 = s := by
  unfold activate at h ⊢
  cases hfind : s.find? id with
  | none => rfl
  | some p =>
    cases hnext : nextCode? p.codes with
    | none => simp [hnext]
    | some code =>
      simp only [hfind, hnext] at h ⊢
      split
      · rfl
      · rename_i haccepted
        simp [haccepted] at h

end Promotions.Memory.Store
