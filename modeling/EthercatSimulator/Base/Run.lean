import Mathlib.Order.Monotone.Basic

/-! Runs of a machine that takes one input after the other, without end. -/

namespace EthercatSimulator.Base

variable {S I : Type}

/-- The states of the run; input `n` leads from state `n` to state `n + 1`. -/
def runOf (step : S → I → S) (start : S) (inputs : Nat → I) : Nat → S
  | 0 => start
  | n + 1 => step (runOf step start inputs n) (inputs n)

theorem countP_concat {α : Type} (p : α → Bool) (xs : List α) (a : α) :
    (xs ++ [a]).countP p = xs.countP p + (p a).toNat := by
  rw [List.countP_append, List.countP_singleton]
  cases p a with
  | false => rfl
  | true => rfl

namespace runOf

variable (step : S → I → S) (start : S) (inputs : Nat → I) (P : S → Prop)

/-- What holds at one moment and is kept by every step from then on holds from then on. -/
theorem from_of {i : Nat} (hi : P (runOf step start inputs i))
    (hstep : ∀ n, i ≤ n → P (runOf step start inputs n) →
      P (step (runOf step start inputs n) (inputs n))) {n : Nat} (hn : i ≤ n) :
    P (runOf step start inputs n) := by
  induction n, hn using Nat.le_induction with
  | base => exact hi
  | succ n hn ih => exact hstep n hn ih

theorem invariant (hstart : P start) (hstep : ∀ s input, P s → P (step s input)) (n : Nat) :
    P (runOf step start inputs n) := by
  induction n with
  | zero => exact hstart
  | succ n ih => exact hstep _ _ ih

/-- What every step keeps together with the count of the steps that `counts` marks. -/
theorem counted (counts : S → I → Bool) (Q : Nat → S → Prop) (hstart : Q 0 start)
    (hstep : ∀ n s input, Q n s → Q (n + (counts s input).toNat) (step s input)) (n : Nat) :
    Q ((List.range n).countP fun k => counts (runOf step start inputs k) (inputs k)) (runOf step start inputs n) := by
  induction n with
  | zero => exact hstart
  | succ n ih =>
    rw [List.range_succ, countP_concat]
    exact hstep _ _ _ ih

end runOf

end EthercatSimulator.Base
