import Mathlib.Order.Basic

/-! Progress of a run whose machine comes to a stop nowhere: a rank that every change of phase
lowers brings it to its goal. -/

namespace EthercatSimulator.Base

variable {S A : Type} {states : Nat → S} {P Q : S → Prop} {rank : S → Nat} {phase : S → A}

/-- One step of what is pending: it is done, or the rank falls, or nothing has changed for it. -/
def Advances (states : Nat → S) (P Q : S → Prop) (rank : S → Nat) (phase : S → A) : Prop :=
  ∀ n, P (states n) → Q (states (n + 1)) ∨ P (states (n + 1)) ∧
    (rank (states (n + 1)) < rank (states n) ∨
      rank (states (n + 1)) = rank (states n) ∧ phase (states (n + 1)) = phase (states n))

/-- Until the phase changes or the rank falls, what is pending stays as it is. -/
theorem Advances.upto (h : Advances states P Q rank phase) {n : Nat} (hn : P (states n)) (k : Nat) :
    (∃ m, n ≤ m ∧ Q (states m)) ∨
    (∃ m, n ≤ m ∧ P (states m) ∧ rank (states m) < rank (states n)) ∨
    P (states (n + k)) ∧ rank (states (n + k)) = rank (states n) ∧
      phase (states (n + k)) = phase (states n) := by
  induction k with
  | zero => exact .inr (.inr ⟨hn, rfl, rfl⟩)
  | succ k ih =>
    rcases ih with hdone | hlower | ⟨hp, hrank, hphase⟩
    · exact .inl hdone
    · exact .inr (.inl hlower)
    · rcases h (n + k) hp with hq | ⟨hp', hlower | ⟨hrank', hphase'⟩⟩
      · exact .inl ⟨n + k + 1, by omega, hq⟩
      · exact .inr (.inl ⟨n + k + 1, by omega, hp', hrank ▸ hlower⟩)
      · exact .inr (.inr ⟨hp', hrank'.trans hrank, hphase'.trans hphase⟩)

/-- What is pending is done in the end if the phase changes again and again. -/
theorem Advances.eventually (h : Advances states P Q rank phase)
    (hchanges : ∀ n, P (states n) → ∃ m, n ≤ m ∧ phase (states m) ≠ phase (states n)) {n : Nat}
    (hn : P (states n)) : ∃ m, n ≤ m ∧ Q (states m) := by
  induction hr : rank (states n) using Nat.strongRecOn generalizing n with
  | ind r ih =>
    obtain ⟨m, hm, hphase⟩ := hchanges n hn
    obtain ⟨k, rfl⟩ := Nat.exists_eq_add_of_le hm
    rcases h.upto hn k with hdone | ⟨m, hm, hp, hlower⟩ | ⟨-, -, hsame⟩
    · exact hdone
    · obtain ⟨m', hm', hq⟩ := ih _ (hr ▸ hlower) hp rfl
      exact ⟨m', Nat.le_trans hm hm', hq⟩
    · exact absurd hsame hphase

end EthercatSimulator.Base
