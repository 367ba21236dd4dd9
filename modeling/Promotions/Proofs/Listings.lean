import Mathlib.Data.List.Sort
import Promotions.Memory.Store
import Promotions.Proofs.Instants

/-!
The order of listings is a total one that tells promotions with different identifiers apart, so that
a listing depends only on which promotions there are, and not on the order in which they are kept.
-/

namespace Promotions

open Calendar

/-- Different instants have different ranks. -/
theorem Calendar.Instant.rank_injective {a b : Instant} (h : a.rank = b.rank) : a = b := by
  obtain ⟨⟨y, m, d, _, _, hm, hd⟩,
    ⟨hour, minute, second, nano, hhour, hminute, hsecond, hnano⟩⟩ := a
  obtain ⟨⟨y', m', d', _, _, hm', hd'⟩,
    ⟨hour', minute', second', nano', hhour', hminute', hsecond', hnano'⟩⟩ := b
  have hdays := daysIn_le y m
  have hdays' := daysIn_le y' m'
  have hnanos : nanosPerSecond = 1000000000 := rfl
  simp only [rank] at h
  obtain ⟨rfl, rfl, rfl, rfl, rfl, rfl, rfl⟩ : y = y' ∧ m = m' ∧ d = d' ∧ hour = hour' ∧
      minute = minute' ∧ second = second' ∧ nano = nano' := by omega
  rfl

theorem Uuid.toNat_injective {a b : Uuid} (h : a.toNat = b.toNat) : a = b := by
  obtain ⟨a⟩ := a
  obtain ⟨b⟩ := b
  exact congrArg Uuid.mk (BitVec.eq_of_toNat_eq h)

theorem Filter.companyId_of_accepts {filter : Filter} {p : Promotion}
    (h : filter.accepts p = true) : p.companyId = filter.companyId := by
  simp only [accepts, Bool.and_eq_true, decide_eq_true_eq] at h
  exact h.1

namespace SortKey

/-- Where a promotion stands: promotions without a place come first, then those with greater
ones. -/
def place (key : SortKey) (p : Promotion) : Option Int := (key.moment? p).map Instant.rank

/-- Promotions without a place come first, then those with greater ones, and identifiers decide
between equals. -/
theorem before_iff (key : SortKey) (p q : Promotion) :
    key.before p q = true ↔
      match key.place p, key.place q with
      | none, none => p.id.toNat ≤ q.id.toNat
      | none, some _ => True
      | some _, none => False
      | some a, some b => b < a ∨ a = b ∧ p.id.toNat ≤ q.id.toNat := by
  unfold before place
  cases hp : key.moment? p with
  | none => cases hq : key.moment? q <;> simp
  | some a =>
    cases hq : key.moment? q with
    | none => simp
    | some b =>
      by_cases hab : a = b
      · subst hab
        simp
      · have hrank : a.rank ≠ b.rank := fun h => hab (Instant.rank_injective h)
        simp only [hab, if_false, Option.map_some, hrank, false_and, or_false]
        exact decide_eq_true_iff

/-- Listing order is transitive, the promotions without a moment included. -/
theorem before_trans (key : SortKey) (p q r : Promotion) (hpq : key.before p q = true)
    (hqr : key.before q r = true) : key.before p r = true := by
  rw [before_iff] at *
  cases hp : key.place p <;> cases hq : key.place q <;> cases hr : key.place r <;>
    simp only [hp, hq, hr] at hpq hqr ⊢ <;> omega

theorem before_total (key : SortKey) (p q : Promotion) :
    (key.before p q || key.before q p) = true := by
  rw [Bool.or_eq_true, before_iff, before_iff]
  cases key.place p <;> cases key.place q <;> simp only [true_or, or_true] <;> omega

/-- Promotions that come before each other are the same one. -/
theorem id_eq_of_before (key : SortKey) {p q : Promotion} (hpq : key.before p q = true)
    (hqp : key.before q p = true) : p.id = q.id := by
  rw [before_iff] at hpq hqp
  apply Uuid.toNat_injective
  cases hp : key.place p <;> cases hq : key.place q <;> simp only [hp, hq] at hpq hqp <;> omega

end SortKey

namespace Memory.Store

/-- No two promotions have the same identifier. -/
def Distinct (s : Store) : Prop := (s.promotions.map (·.id)).Nodup

theorem Distinct.remove {s : Store} (h : s.Distinct) (id : Uuid) : (s.remove id).Distinct :=
  h.sublist (List.filter_sublist.map _)

theorem Distinct.insert {s : Store} (h : s.Distinct) (p : Promotion) : (s.insert p).Distinct := by
  have hnew : ∀ q ∈ (s.remove p.id).promotions, q.id ≠ p.id := by
    intro q hq
    simpa using (List.mem_filter.mp hq).2
  have hids : ((s.remove p.id).promotions.map (·.id) ++ [p.id]).Nodup := by
    refine List.nodup_append.mpr ⟨h.remove p.id, List.nodup_singleton _, ?_⟩
    intro id hid id' hid'
    obtain ⟨q, hq, rfl⟩ := List.mem_map.mp hid
    rw [List.mem_singleton.mp hid']
    exact hnew q hq
  simpa [Distinct, Store.insert] using hids

/-- A change that keeps identifiers keeps them unique. -/
theorem Distinct.modify {s : Store} (h : s.Distinct) (id : Uuid) {change : Promotion → Promotion}
    (hchange : ∀ p, (change p).id = p.id) : (s.modify id change).Distinct := by
  have hids : (s.modify id change).promotions.map (·.id) = s.promotions.map (·.id) := by
    rw [Store.modify, List.map_map]
    apply List.map_congr_left
    intro p _
    simp only [Function.comp]
    split
    · exact hchange p
    · rfl
  rw [Distinct, hids]
  exact h

theorem Distinct.eq_of_id_eq {s : Store} (h : s.Distinct) {p q : Promotion} (hp : p ∈ s.promotions)
    (hq : q ∈ s.promotions) (hid : p.id = q.id) : p = q :=
  List.inj_on_of_nodup_map h hp hq hid

theorem mem_of_find? {s : Store} {id : Uuid} {p : Promotion} (h : s.find? id = some p) :
    p ∈ s.promotions ∧ p.id = id :=
  ⟨List.mem_of_find?_eq_some h, by simpa using List.find?_some h⟩

/-- With unique identifiers a promotion is found exactly if it is there. -/
theorem Distinct.find?_eq_some_iff {s : Store} (h : s.Distinct) {id : Uuid} {p : Promotion} :
    s.find? id = some p ↔ p ∈ s.promotions ∧ p.id = id := by
  refine ⟨mem_of_find?, fun ⟨hp, hid⟩ => ?_⟩
  cases hfind : s.find? id with
  | none =>
    have hnone := List.find?_eq_none.mp hfind p hp
    simp [hid] at hnone
  | some q =>
    obtain ⟨hq, hqid⟩ := mem_of_find? hfind
    rw [h.eq_of_id_eq hq hp (hqid.trans hid.symm)]

theorem ne_of_find?_eq_none {s : Store} {id : Uuid} (h : s.find? id = none) :
    ∀ p ∈ s.promotions, p.id ≠ id := by
  simpa [find?] using h

/-- A change that leaves identifiers as they are leaves the same ones in the store. -/
theorem exists_mem_modify {s : Store} (id : Uuid) {change : Promotion → Promotion}
    (hid : ∀ p, (change p).id = p.id) {x : Uuid} (h : ∃ p ∈ s.promotions, p.id = x) :
    ∃ p ∈ (s.modify id change).promotions, p.id = x := by
  obtain ⟨p, hp, rfl⟩ := h
  refine ⟨_, List.mem_map_of_mem hp, ?_⟩
  split
  · exact hid p
  · rfl

/-- One promotion has an identifier, or none. -/
theorem Distinct.filter_id {s : Store} (h : s.Distinct) (id : Uuid) :
    s.promotions.filter (·.id = id) = (s.find? id).toList := by
  obtain ⟨ps⟩ := s
  simp only [Distinct, find?] at h ⊢
  induction ps with
  | nil => rfl
  | cons p ps ih =>
    obtain ⟨hnew, hrest⟩ := List.nodup_cons.mp h
    by_cases hp : p.id = id
    · have hnone : ps.filter (·.id = id) = [] := by
        refine List.filter_eq_nil_iff.mpr fun q hq => ?_
        have hne : q.id ≠ p.id := fun hid => hnew (List.mem_map.mpr ⟨q, hq, hid⟩)
        simpa [← hp] using hne
      simp [hp, hnone]
    · simpa [hp] using ih hrest

variable {s s' : Store} {filter : Filter}

/-- Stores in which a filter accepts the same promotions. -/
theorem perm_filter (h : s.Distinct) (h' : s'.Distinct)
    (hsame : ∀ p, filter.accepts p = true → (p ∈ s.promotions ↔ p ∈ s'.promotions)) :
    (s.promotions.filter filter.accepts).Perm (s'.promotions.filter filter.accepts) := by
  refine (List.perm_ext_iff_of_nodup (h.of_map _ |>.filter _) (h'.of_map _ |>.filter _)).mpr
    fun p => ?_
  simp only [List.mem_filter]
  exact ⟨fun ⟨hp, ha⟩ => ⟨(hsame p ha).mp hp, ha⟩, fun ⟨hp, ha⟩ => ⟨(hsame p ha).mpr hp, ha⟩⟩

/-- A listing shows what the filter accepts, and nothing else. -/
theorem mem_listing {s : Store} {filter : Filter} {key : SortKey} {p : Promotion} :
    p ∈ s.listing filter key ↔ p ∈ s.promotions ∧ filter.accepts p = true := by
  rw [listing, List.mem_mergeSort, List.mem_filter]

/-- What a listing shows depends only on which promotions there are that its filter accepts. -/
theorem listing_congr (h : s.Distinct) (h' : s'.Distinct)
    (hsame : ∀ p, filter.accepts p = true → (p ∈ s.promotions ↔ p ∈ s'.promotions))
    (key : SortKey) : s.listing filter key = s'.listing filter key := by
  have hsorted (t : Store) := List.pairwise_mergeSort key.before_trans key.before_total
    (t.promotions.filter filter.accepts)
  refine List.Perm.eq_of_pairwise ?_ (hsorted s) (hsorted s') ?_
  · intro p q hp hq hpq hqp
    obtain ⟨hp, ha⟩ := mem_listing.mp hp
    exact h'.eq_of_id_eq ((hsame p ha).mp hp) (mem_listing.mp hq).1 (key.id_eq_of_before hpq hqp)
  · exact (List.mergeSort_perm _ _).trans
      ((perm_filter h h' hsame).trans (List.mergeSort_perm _ _).symm)

/-- Stores that have the same accepted promotions count the same number of them. -/
theorem count_congr (h : s.Distinct) (h' : s'.Distinct)
    (hsame : ∀ p, filter.accepts p = true → (p ∈ s.promotions ↔ p ∈ s'.promotions)) :
    s.count filter = s'.count filter :=
  (perm_filter h h' hsame).length_eq

end Memory.Store

end Promotions
