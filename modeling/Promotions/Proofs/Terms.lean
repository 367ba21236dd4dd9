import Promotions.Proofs.Counting
import Promotions.Proofs.Validity

/-!
What promotions say apart from their counts. Rows that are held, let go or counted leave it as it
is, so that a property of promotions that does not look at counts is kept by all of them as long as
those that are created or changed have it.
-/

namespace Promotions

/-- A promotion without its counts. -/
def Promotion.terms (p : Promotion) : Promotion × List NewCode :=
  ({ p with codes := [] }, p.codes.map CodeCount.issued)

theorem Promotion.terms_eq_iff {p q : Promotion} :
    p.terms = q.terms ↔ p.id = q.id ∧ p.companyId = q.companyId ∧ p.mode = q.mode ∧
      p.content = q.content ∧ p.createdAt = q.createdAt ∧
      p.codes.map CodeCount.issued = q.codes.map CodeCount.issued := by
  simp only [terms, Prod.mk.injEq, Promotion.mk.injEq, and_true, and_assoc]

/-- Promotions that say the same apart from their counts both keep the rules or both do not. -/
theorem Promotion.Lawful.of_terms {p q : Promotion} (hterms : p.terms = q.terms) (h : p.Lawful) :
    q.Lawful := by
  obtain ⟨-, hcompany, hmode, hcontent, -, hcodes⟩ := terms_eq_iff.mp hterms
  exact ⟨hcompany ▸ h.company, hcontent ▸ h.content, hmode ▸ hcodes ▸ h.codes⟩

namespace Memory.World

variable {w w' : World}

/-- A promotion with the codes that it has, and after them what its rows count now. -/
def filled (w : World) (pool : Pool) : Promotion :=
  { pool.promotion with codes := pool.promotion.codes ++ pool.rows.filterMap w.count? }

theorem filled_blank (w : World) (pool : Pool) : w.filled pool.blank = w.present pool := rfl

/-- A promotion keeps its terms while activations are counted in its rows. -/
theorem Grows.terms_filled (h : w.Grows w') {pool : Pool}
    (hrows : ∀ r ∈ pool.rows, r < w.rows.length) :
    (w'.filled pool).terms = (w.filled pool).terms := by
  have hissued := h.map_congr (f := CodeCount.issued) hrows fun k k' hcode hmax => by
    rw [CodeCount.issued, CodeCount.issued, hcode, hmax]
  rw [Promotion.terms_eq_iff]
  refine ⟨rfl, rfl, rfl, rfl, rfl, ?_⟩
  simp only [filled, List.map_append, hissued]

def All (P : Promotion → Prop) (w : World) : Prop := ∀ p ∈ w.toStore.promotions, P p

namespace All

variable {P : Promotion → Prop}

theorem present (h : w.All P) {pool : Pool} (hpool : pool ∈ w.pools) : P (w.present pool) :=
  h _ (List.mem_map_of_mem hpool)

/-- A property that does not look at counts. -/
theorem of_grows (h : w.All P) (hP : ∀ p q : Promotion, p.terms = q.terms → P p → P q)
    (hlayout : w.Layout) (hgrows : w.Grows w') (hpools : w'.pools = w.pools) : w'.All P := by
  intro p hp
  rw [toStore_eq, hpools] at hp
  obtain ⟨pool, hpool, rfl⟩ := List.mem_map.mp hp
  have hrows : ∀ r ∈ pool.blank.rows, r < w.rows.length := hlayout.inRange pool hpool
  have hbefore := h.present hpool
  rw [← filled_blank] at hbefore ⊢
  exact hP _ _ (hgrows.terms_filled hrows).symm hbefore

/-- What holds of all promotions still does when one is inserted of which it holds. -/
theorem insert (h : w.All P) (hlayout : w.Layout) {p : Promotion} (hp : P p) :
    (w.insert p).All P := by
  intro q hq
  rw [toStore_insert hlayout] at hq
  rcases List.mem_append.mp hq with hold | hnew
  · exact h q (List.mem_filter.mp hold).1
  · exact List.mem_singleton.mp hnew ▸ hp

theorem rewrite (h : w.All P) {id : Uuid} {content : Content}
    (hchanged : ∀ p ∈ w.toStore.promotions, p.id = id → P { p with content }) :
    (w.rewrite id content).All P := by
  intro q hq
  rw [toStore_rewrite] at hq
  obtain ⟨p, hp, rfl⟩ := List.mem_map.mp hq
  split
  · rename_i hid
    exact hchanged p hp hid
  · exact h p hp

theorem remove (h : w.All P) (id : Uuid) : (w.remove id).All P := by
  intro q hq
  rw [toStore_remove] at hq
  exact h q (List.mem_filter.mp hq).1

end All

end Memory.World

end Promotions
