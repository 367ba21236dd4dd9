/-!
Dialogues: programs that ask their surroundings and go on with the answers. What a dialogue asks, in
what order, and what it makes of the answers is part of its value; how the answers come about is
not. The same dialogue can so be run in memory, against a scripted partner, or step by step.
-/

namespace Promotions

/-- A program with questions of type `Ask` that ends with a value of type `α`. -/
inductive Dialogue (Ask : Type) (Answer : Ask → Type) (α : Type) where
  | done (a : α)
  | ask (q : Ask) (next : Answer q → Dialogue Ask Answer α)

namespace Dialogue

variable {Ask : Type} {Answer : Ask → Type} {α β σ : Type}

def bind : Dialogue Ask Answer α → (α → Dialogue Ask Answer β) → Dialogue Ask Answer β
  | done a, k => k a
  | ask q next, k => ask q fun r => (next r).bind k

instance : Monad (Dialogue Ask Answer) where
  pure := done
  bind := bind

def perform (q : Ask) : Dialogue Ask Answer (Answer q) := ask q done

/-- The end of a dialogue when the surroundings have a state and answer by `answer`. -/
def run (answer : (q : Ask) → σ → Answer q × σ) : Dialogue Ask Answer α → σ → α × σ
  | done a, s => (a, s)
  | ask q next, s => run answer (next (answer q s).1) (answer q s).2

/-- What is left of a dialogue once the first question of a kind has been answered, and whether
there was one. -/
def runPast (answer : (q : Ask) → σ → Answer q × σ) (kind : Ask → Bool) :
    Dialogue Ask Answer α → σ → (Bool × Dialogue Ask Answer α) × σ
  | done a, s => ((false, done a), s)
  | ask q next, s =>
    let (r, s) := answer q s
    if kind q then ((true, next r), s) else runPast answer kind (next r) s

@[simp] theorem run_done (answer : (q : Ask) → σ → Answer q × σ) (a : α) (s : σ) :
    (done a : Dialogue Ask Answer α).run answer s = (a, s) := rfl

@[simp] theorem run_pure (answer : (q : Ask) → σ → Answer q × σ) (a : α) (s : σ) :
    (pure a : Dialogue Ask Answer α).run answer s = (a, s) := rfl

@[simp] theorem run_perform (answer : (q : Ask) → σ → Answer q × σ) (q : Ask) (s : σ) :
    (perform q : Dialogue Ask Answer (Answer q)).run answer s = answer q s := rfl

/-- Running one dialogue after another is running the first one, then the second. -/
@[simp] theorem run_bind (answer : (q : Ask) → σ → Answer q × σ) (d : Dialogue Ask Answer α)
    (k : α → Dialogue Ask Answer β) (s : σ) :
    (d >>= k).run answer s = (k (d.run answer s).1).run answer (d.run answer s).2 := by
  induction d generalizing s with
  | done a => rfl
  | ask q next ih => exact ih (answer q s).1 (answer q s).2

end Dialogue

end Promotions
