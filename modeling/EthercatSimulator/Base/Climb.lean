import Mathlib.Order.Monotone.Basic

/-! Runs that climb a ladder of stages one rung at a time. -/

namespace EthercatSimulator.Base

/-- Between `i` and `j` the stage never falls and never skips a rung. -/
def Climbs (stage : Nat → Nat) (i j : Nat) : Prop :=
  ∀ t, i ≤ t → t < j → stage (t + 1) = stage t ∨ stage (t + 1) = stage t + 1

namespace Climbs

variable {stage : Nat → Nat} {i j : Nat}

theorem le_of_le (h : Climbs stage i j) {s t : Nat} (hi : i ≤ s) (hst : s ≤ t) (hj : t ≤ j) :
    stage s ≤ stage t := by
  induction t, hst using Nat.le_induction with
  | base => exact Nat.le_refl _
  | succ t hst ih =>
    have hstep := h t (by omega) (by omega)
    have hle := ih (by omega)
    omega

/-- Every rung between the two ends is taken at some moment. -/
theorem exists_rise (h : Climbs stage i j) (hij : i ≤ j) {k : Nat} (hk : stage i ≤ k)
    (hkj : k < stage j) : ∃ t, i ≤ t ∧ t < j ∧ stage t = k ∧ stage (t + 1) = k + 1 := by
  induction j, hij using Nat.le_induction with
  | base => omega
  | succ j hij ih =>
    have hstep := h j hij (Nat.lt_succ_self j)
    by_cases hlt : k < stage j
    · obtain ⟨t, hit, htj, hrise⟩ := ih (fun t ht htj => h t ht (by omega)) hlt
      exact ⟨t, hit, by omega, hrise⟩
    · exact ⟨j, hij, Nat.lt_succ_self j, by omega, by omega⟩

/-- A higher rung is taken later than a lower one. -/
theorem lt_of_rise (h : Climbs stage i j) {s t : Nat} (hi : i ≤ t) (hj : s < j)
    (hst : stage s < stage t) : s < t := by
  by_contra hts
  have := h.le_of_le hi (by omega : t ≤ s) (by omega)
  omega

end Climbs

end EthercatSimulator.Base
