import Promotions.Postgres.Script

/-!
Transcripts of dialogues: every question with its answer, in the order in which they come. What
holds of every transcript that a dialogue can have holds whoever answers.
-/

namespace Promotions

namespace Dialogue

variable {Ask : Type} {Answer : Ask → Type} {α β σ : Type}

/-- What is asked and answered in a dialogue when the surroundings have a state and answer by
`answer`. -/
def transcript (answer : (q : Ask) → σ → Answer q × σ) :
    Dialogue Ask Answer α → σ → List ((q : Ask) × Answer q)
  | done _, _ => []
  | ask q next, s => ⟨q, (answer q s).1⟩ :: transcript answer (next (answer q s).1) (answer q s).2

/-- Whether a dialogue can have a transcript and an end, with the answers that stand in it. -/
def Goes : Dialogue Ask Answer α → List ((q : Ask) × Answer q) → α → Prop
  | done a, t, b => t = [] ∧ b = a
  | ask q next, t, b => ∃ r rest, t = ⟨q, r⟩ :: rest ∧ (next r).Goes rest b

theorem goes_transcript (answer : (q : Ask) → σ → Answer q × σ) (d : Dialogue Ask Answer α)
    (s : σ) : d.Goes (d.transcript answer s) (d.run answer s).1 := by
  induction d generalizing s with
  | done a => exact ⟨rfl, rfl⟩
  | ask q next ih => exact ⟨_, _, rfl, ih _ _⟩

theorem goes_bind {d : Dialogue Ask Answer α} {k : α → Dialogue Ask Answer β}
    {t : List ((q : Ask) × Answer q)} {b : β} :
    (d >>= k).Goes t b ↔ ∃ before after a, t = before ++ after ∧ d.Goes before a ∧
      (k a).Goes after b := by
  induction d generalizing t with
  | done a =>
    constructor
    · exact fun h => ⟨[], t, a, rfl, ⟨rfl, rfl⟩, h⟩
    · rintro ⟨_, after, _, rfl, ⟨rfl, rfl⟩, h⟩
      exact h
  | ask q next ih =>
    constructor
    · rintro ⟨r, rest, rfl, h⟩
      obtain ⟨before, after, a, rfl, hbefore, hafter⟩ := (ih r).mp h
      exact ⟨⟨q, r⟩ :: before, after, a, rfl, ⟨r, before, rfl, hbefore⟩, hafter⟩
    · rintro ⟨_, after, a, rfl, ⟨r, before, rfl, hbefore⟩, hafter⟩
      exact ⟨r, before ++ after, rfl, (ih r).mpr ⟨before, after, a, rfl, hbefore, hafter⟩⟩

end Dialogue

namespace Postgres

abbrev Transcript := List ((q : Question) × q.Answer)

namespace Transcript

def statements (t : Transcript) : List Statement :=
  t.filterMap fun line =>
    match line.1 with
    | .send s => some s
    | .gate _ _ => none

@[simp] theorem statements_nil : statements [] = [] := rfl

@[simp] theorem statements_send (s : Statement) (reply : Except StorageCause s.Reply)
    (t : Transcript) : statements (⟨.send s, reply⟩ :: t) = s :: statements t := rfl

@[simp] theorem statements_gate (id : Uuid) (code : String) (refused : Bool) (t : Transcript) :
    statements (⟨.gate id code, refused⟩ :: t) = statements t := rfl

@[simp] theorem statements_append (t t' : Transcript) :
    statements (t ++ t') = statements t ++ statements t' :=
  List.filterMap_append

theorem mem_statements {t : Transcript} {s : Statement} {reply : Except StorageCause s.Reply}
    (h : ⟨.send s, reply⟩ ∈ t) : s ∈ statements t :=
  List.mem_filterMap.mpr ⟨_, h, rfl⟩

end Transcript

/-- A scripted database keeps a record of the statements that were sent to it. -/
theorem Script.sent_perform {α : Type} (e : Exchange α) (s : Script) :
    (s.perform e).2.sent =
      (Transcript.statements (e.transcript (fun q s => s.answer q) s)).reverse ++ s.sent := by
  unfold perform
  induction e generalizing s with
  | done a => rfl
  | ask q next ih =>
    rw [Dialogue.run, ih, Dialogue.transcript]
    cases q with
    | gate id code => rfl
    | send st =>
      have hsent : (s.answer (.send st)).2.sent = st :: s.sent := by
        simp only [answer]
        split
        · split <;> rfl
        · split <;> rfl
      simp [hsent]

end Postgres

end Promotions
