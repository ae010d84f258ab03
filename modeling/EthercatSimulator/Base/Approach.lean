import Mathlib.Algebra.Order.Floor.Semiring
import Mathlib.Tactic.FieldSimp
import Mathlib.Tactic.Linarith
import Mathlib.Tactic.Positivity
import Mathlib.Tactic.Ring

/-! The approach of a target along a line, cycle by cycle: the speed is ramped towards a demand, and
towards rest once the way that is left is no longer than the way it takes to stop.  Way and speed
are counted towards the target. -/

namespace EthercatSimulator.Base

variable {K : Type} [Field K] [LinearOrder K]

/-- `speed` on its way to `demand`, by `delta` at most. -/
def ramp (speed demand delta : K) : K :=
  if delta ≤ 0 then speed
  else if |demand - speed| ≤ delta then demand
  else speed + delta * if 0 < demand - speed then 1 else -1

/-- The parameters of a cycle: the speed it heads for, by how much the speed can change, the way per
unit of speed, when it has arrived, and the way it takes to stop. -/
structure Approach (K : Type) [Field K] [LinearOrder K] where
  top : K
  accel : K
  decel : K
  rate : K
  window : K
  slack : K
  stop : K → K
  top_nonneg : 0 ≤ top
  rate_pos : 0 < rate
  stop_rest : ∀ u, u ≤ 0 → stop u = 0

namespace Approach

variable (a : Approach K)

def speed (way u : K) : K :=
  if u < 0 ∨ way ≤ a.stop u then ramp u 0 a.decel else ramp u a.top a.accel

/-- The way that is left and the speed after a cycle, none once the target is reached. -/
def step (x : K × K) : Option (K × K) :=
  if x.1 ≤ a.window ∧ |x.2| ≤ a.slack then none
  else
    let u := a.speed x.1 x.2
    let rest := x.1 - u * a.rate
    if x.1 = 0 ∨ rest ≤ 0 then none else some (rest, u)

end Approach

section Ramp

variable [IsStrictOrderedRing K] {u t d : K}

theorem ramp_between (u t d : K) : u ≤ ramp u t d ∧ ramp u t d ≤ t ∨ t ≤ ramp u t d ∧ ramp u t d ≤ u := by
  unfold ramp
  split_ifs with hzero hnear hup
  · exact (le_total u t).imp (⟨le_refl u, ·⟩) (⟨·, le_refl u⟩)
  · exact (le_total u t).imp (⟨·, le_refl t⟩) (⟨le_refl t, ·⟩)
  · rw [abs_of_pos hup, not_le] at hnear
    exact .inl ⟨by linarith [not_le.mp hzero], by linarith⟩
  · rw [abs_of_nonpos (not_lt.mp hup), not_le] at hnear
    exact .inr ⟨by linarith, by linarith [not_le.mp hzero]⟩

theorem ramp_nonneg (hu : 0 ≤ u) (ht : 0 ≤ t) : 0 ≤ ramp u t d := by
  rcases ramp_between u t d with h | h
  · exact hu.trans h.1
  · exact ht.trans h.1

/-- From rest or in the direction of the demand, the ramp gets going. -/
theorem le_ramp (hd : 0 < d) (hu : 0 ≤ u) : min d t ≤ ramp u t d := by
  unfold ramp
  rw [if_neg (not_le.mpr hd)]
  split_ifs with hnear hup
  · exact min_le_right _ _
  · exact (min_le_left _ _).trans (by linarith)
  · rw [abs_of_nonpos (not_lt.mp hup), not_le] at hnear
    exact (min_le_right _ _).trans (by linarith)

theorem ramp_neg (u t d : K) : ramp (-u) (-t) d = -ramp u t d := by
  have hdelta : -t - -u = -(t - u) := by ring
  unfold ramp
  rw [hdelta, abs_neg]
  split_ifs with hzero hnear
  · rfl
  · rfl
  · linarith
  · ring
  · ring
  · rename_i hdown hup
    exfalso
    have hsame : t - u = 0 := le_antisymm (not_lt.mp hup) (by linarith [not_lt.mp hdown])
    rw [hsame, abs_zero] at hnear
    exact hnear (not_le.mp hzero).le

/-- Towards rest, the ramp ends there or has used its whole step. -/
theorem ramp_rest (hd : 0 < d) (u : K) : ramp u 0 d = 0 ∨ d < u ∧ ramp u 0 d = u - d ∨
    u < -d ∧ ramp u 0 d = u + d := by
  unfold ramp
  rw [if_neg (not_le.mpr hd)]
  split_ifs with hnear hup
  · exact .inl rfl
  · rw [abs_of_pos hup, not_le] at hnear
    exact .inr (.inr ⟨by linarith, by ring⟩)
  · rw [abs_of_nonpos (not_lt.mp hup), not_le] at hnear
    exact .inr (.inl ⟨by linarith, by ring⟩)

end Ramp

namespace Approach

variable [IsStrictOrderedRing K] {a : Approach K} {way u way' u' : K}

omit [IsStrictOrderedRing K] in
theorem step_some (h : a.step (way, u) = some (way', u')) :
    way ≠ 0 ∧ 0 < way' ∧ u' = a.speed way u ∧ way' = way - u' * a.rate := by
  unfold step at h
  dsimp only at h
  split_ifs at h with _ hlast
  rw [not_or, not_le] at hlast
  cases h
  exact ⟨hlast.1, hlast.2, rfl, rfl⟩

/-- Heading for the target, a cycle neither turns back nor gets farther away. -/
theorem step_approaches (hu : 0 ≤ u) (h : a.step (way, u) = some (way', u')) : 0 ≤ u' ∧ 0 < way' ∧ way' ≤ way := by
  obtain ⟨-, hway, rfl, rfl⟩ := step_some h
  have hspeed : 0 ≤ a.speed way u := by
    unfold speed
    split_ifs
    · exact ramp_nonneg hu (le_refl 0)
    · exact ramp_nonneg hu a.top_nonneg
  exact ⟨hspeed, hway, by linarith [mul_nonneg hspeed a.rate_pos.le]⟩

/-! Every approach ends. -/

section Ends

variable [FloorSemiring K]

theorem ceil_lt_ceil {x y : K} (hy : 0 ≤ y) (h : y + 1 ≤ x) : ⌈y⌉₊ < ⌈x⌉₊ :=
  Nat.lt_ceil.mpr ((Nat.ceil_lt_add_one hy).trans_le h)

/-- What remains in cycles of getting going, and then in cycles of braking. -/
def rank (a : Approach K) (x : K × K) : Nat × Nat :=
  (⌈x.1 / (min a.accel a.top * a.rate)⌉₊, ⌈x.2 / a.decel⌉₊)

theorem step_rank (htop : 0 < a.top) (haccel : 0 < a.accel) (hdecel : 0 < a.decel) (hway : 0 ≤ way) (hu : 0 ≤ u)
    (h : a.step (way, u) = some (way', u')) : Prod.Lex (· < ·) (· < ·) (a.rank (way', u')) (a.rank (way, u)) := by
  obtain ⟨hu', hway', hle⟩ := step_approaches hu h
  obtain ⟨hne, -, hspeed, hrest⟩ := step_some h
  have hpace : 0 < min a.accel a.top * a.rate := mul_pos (lt_min haccel htop) a.rate_pos
  unfold speed at hspeed
  split_ifs at hspeed with hbraking
  · -- a cycle of braking, from a speed that is not yet zero
    have hmoving : 0 < u := by
      refine hu.lt_of_ne fun hzero => ?_
      rcases hbraking with hneg | hstop
      · exact absurd hneg (not_lt.mpr hu)
      · rw [a.stop_rest u hzero.ge] at hstop
        exact hne (le_antisymm hstop hway)
    have hslower : ⌈u' / a.decel⌉₊ < ⌈u / a.decel⌉₊ := by
      rcases ramp_rest hdecel u with hzero | ⟨-, hstep⟩ | ⟨hneg, -⟩
      · rw [hspeed, hzero, zero_div, Nat.ceil_zero]
        exact Nat.ceil_pos.mpr (div_pos hmoving hdecel)
      · refine ceil_lt_ceil (div_nonneg hu' hdecel.le) (le_of_eq ?_)
        rw [hspeed, hstep]
        field_simp
        ring
      · exact absurd hneg (by linarith)
    have hmono : ⌈way' / (min a.accel a.top * a.rate)⌉₊ ≤ ⌈way / (min a.accel a.top * a.rate)⌉₊ :=
      Nat.ceil_mono (div_le_div_of_nonneg_right hle hpace.le)
    rcases hmono.lt_or_eq with hlt | heq
    · exact .left _ _ hlt
    · unfold rank
      rw [heq]
      exact .right _ hslower
  · -- a cycle of getting going, by a pace that does not shrink
    refine .left _ _ (ceil_lt_ceil (div_nonneg hway'.le hpace.le) ?_)
    rw [← div_self hpace.ne', ← add_div]
    refine div_le_div_of_nonneg_right ?_ hpace.le
    have hpaced : min a.accel a.top * a.rate ≤ u' * a.rate :=
      mul_le_mul_of_nonneg_right (hspeed ▸ le_ramp haccel hu) a.rate_pos.le
    linarith

variable (htop : 0 < a.top) (haccel : 0 < a.accel) (hdecel : 0 < a.decel)
include htop haccel hdecel

theorem acc_forward {x : K × K} (hway : 0 ≤ x.1) (hu : 0 ≤ x.2) : Acc (fun y x => a.step x = some y) x := by
  induction hr : a.rank x using (Prod.lex Nat.lt_wfRel Nat.lt_wfRel).wf.induction generalizing x with
  | h r ih =>
    refine .intro _ fun y hy => ?_
    have happroaches := step_approaches (a := a) hu hy
    exact ih _ (hr ▸ step_rank htop haccel hdecel hway hu hy) happroaches.2.1.le happroaches.1 rfl

/-- Running away from the target ends first. -/
theorem acc_step {x : K × K} (hway : 0 ≤ x.1) : Acc (fun y x => a.step x = some y) x := by
  induction hr : ⌈-x.2 / a.decel⌉₊ using Nat.strongRecOn generalizing x with
  | ind r ih =>
    rcases le_or_gt 0 x.2 with hu | hu
    · exact acc_forward htop haccel hdecel hway hu
    refine .intro _ fun y hy => ?_
    obtain ⟨-, hway', hspeed, -⟩ := step_some hy
    unfold speed at hspeed
    rw [if_pos (.inl hu)] at hspeed
    rcases ramp_rest hdecel x.2 with hzero | ⟨hpos, -⟩ | ⟨hfar, hstep⟩
    · exact acc_forward htop haccel hdecel hway'.le (by rw [hspeed, hzero])
    · exact absurd hpos (by linarith)
    · refine ih _ ?_ hway'.le rfl
      rw [← hr, hspeed, hstep]
      refine ceil_lt_ceil (div_nonneg (by linarith) hdecel.le) (le_of_eq ?_)
      field_simp
      ring

end Ends

end Approach

end EthercatSimulator.Base
