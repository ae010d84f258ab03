import Mathlib.Data.List.Induction

/-! What holds of every line of a log and of the lines before it. -/

namespace EthercatSimulator.Base

variable {α : Type}

/-- Every line satisfies `P` with what stands before it. -/
def EachAfter (P : List α → α → Prop) (log : List α) : Prop :=
  ∀ before line after, log = before ++ line :: after → P before line

namespace EachAfter

variable {P : List α → α → Prop} {log : List α}

theorem nil : EachAfter P [] := fun before line after h => by simp at h

/-- A log grows at its end. -/
theorem concat (h : EachAfter P log) {line : α} (hline : P log line) : EachAfter P (log ++ [line]) := by
  intro before l after hsplit
  induction after using List.reverseRecOn with
  | nil =>
    obtain ⟨rfl, hl⟩ := List.append_inj' hsplit rfl
    cases hl
    exact hline
  | append_singleton rest last _ =>
    refine h before l rest ?_
    rw [← List.cons_append, ← List.append_assoc] at hsplit
    exact (List.append_inj' hsplit rfl).1

end EachAfter

end EthercatSimulator.Base
