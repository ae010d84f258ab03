import EthercatSimulator.Base.Approach
import EthercatSimulator.Behaviour.Acknowledge
import EthercatSimulator.Behaviour.RestLaws

/-! A move of profile position mode in exact arithmetic is the approach of its target. -/

namespace EthercatSimulator.Behaviour

open Base Profile Diagnostics PyFloat ExtRat

/-- The parameters of a cycle as numbers. -/
structure Rates where
  profile : ℚ
  positive : ℚ
  negative : ℚ
  accel : ℚ
  decel : ℚ
  window : ℚ
  positionScale : ℚ
  velocityScale : ℚ
  accelerationScale : ℚ
  cycle : ℚ
  profile_nonneg : 0 ≤ profile
  positionScale_pos : 0 < positionScale
  velocityScale_pos : 0 < velocityScale
  accelerationScale_pos : 0 < accelerationScale
  cycle_pos : 0 < cycle

namespace Rates

variable (q : Rates)

def limit (backward : Bool) : ℚ := if backward ∧ 0 < q.negative then q.negative else q.positive

/-- How the target is approached, from above (`backward`) or from below. -/
def approach (backward : Bool) : Approach ℚ where
  top := if 0 < q.limit backward then min q.profile (q.limit backward) else q.profile
  accel := q.accel * q.accelerationScale / q.velocityScale * q.cycle
  decel := q.decel * q.accelerationScale / q.velocityScale * q.cycle
  rate := q.velocityScale / q.positionScale * q.cycle
  window := q.window
  slack := max (q.decel * q.accelerationScale / q.velocityScale * q.cycle) (1 / 10 ^ 9)
  stop u :=
    if 0 < q.decel * q.accelerationScale / q.positionScale then
      max (u * q.velocityScale / q.positionScale) 0 * max (u * q.velocityScale / q.positionScale) 0 /
        (2 * (q.decel * q.accelerationScale / q.positionScale))
    else 0
  top_nonneg := by
    split_ifs with h
    · exact le_min q.profile_nonneg h.le
    · exact q.profile_nonneg
  rate_pos := mul_pos (div_pos q.velocityScale_pos q.positionScale_pos) q.cycle_pos
  stop_rest u hu := by
    have hrest : max (u * q.velocityScale / q.positionScale) 0 = 0 := max_eq_right
      (div_nonpos_of_nonpos_of_nonneg (mul_nonpos_of_nonpos_of_nonneg hu q.velocityScale_pos.le)
        q.positionScale_pos.le)
    rw [hrest]
    split_ifs
    · rw [zero_mul, zero_div]
    · rfl

end Rates

namespace Servo

variable {s s' : Servo ExtRat} {q : Rates}

/-- The servo has these parameters. -/
structure Rated (s : Servo ExtRat) (q : Rates) : Prop where
  profile : s.profileVelocity = num q.profile
  positive : s.positiveLimit = num q.positive
  negative : s.negativeLimit = num q.negative
  accel : PyFloat.abs (s.od.real Key.profileAcceleration) = num q.accel
  decel : PyFloat.abs (s.od.real Key.profileDeceleration) = num q.decel
  window : PyFloat.abs (s.od.real Key.positionWindow) = num q.window
  positionScale : s.positionScale = num q.positionScale
  velocityScale : s.velocityScale = num q.velocityScale
  accelerationScale : s.accelerationScale = num q.accelerationScale
  cycleTime : s.cycleTime = num q.cycle

/-- What the servo reads of the dictionary in a move. -/
def ppParameters : List Key := [
  Key.profileVelocity, Key.maxProfileVelocity, Key.negativeVelocityLimit, Key.profileAcceleration,
  Key.profileDeceleration, Key.positionWindow, Key.positionWindowTime]

/-- The parameters and the cycle time are numbers, and time goes on. -/
structure Exact (s : Servo ExtRat) : Prop where
  parameters : ∀ key ∈ ppParameters, ∃ x, s.od.real key = num x
  cycleTime : ∃ t, 0 < t ∧ s.cycleTime = num t

theorem Exact.rated (h : s.Exact) : ∃ q, s.Rated q := by
  obtain ⟨v, hv⟩ := h.parameters Key.profileVelocity (by decide)
  obtain ⟨m, hm⟩ := h.parameters Key.maxProfileVelocity (by decide)
  obtain ⟨n, hn⟩ := h.parameters Key.negativeVelocityLimit (by decide)
  obtain ⟨a, ha⟩ := h.parameters Key.profileAcceleration (by decide)
  obtain ⟨b, hb⟩ := h.parameters Key.profileDeceleration (by decide)
  obtain ⟨w, hw⟩ := h.parameters Key.positionWindow (by decide)
  obtain ⟨t, ht, hcycle⟩ := h.cycleTime
  obtain ⟨x, hx, hposition⟩ := s.positionScale_num
  obtain ⟨y, hy, hvelocity⟩ := s.velocityScale_num
  obtain ⟨z, hz, hacceleration⟩ := s.accelerationScale_num
  refine ⟨⟨|v|, |m|, |n * 1000|, |a|, |b|, |w|, x, y, z, t, abs_nonneg v, hx, hy, hz, ht⟩, ?_, ?_, ?_, ?_, ?_, ?_,
    hposition, hvelocity, hacceleration, hcycle⟩
  · rw [profileVelocity, hv, abs_num]
  · rw [positiveLimit, hm, abs_num]
  · rw [negativeLimit, hn, lit, ofRat_eq, num_mul, abs_num]
  · rw [ha, abs_num]
  · rw [hb, abs_num]
  · rw [hw, abs_num]

theorem moveTowards_ramp (v t d : ℚ) : moveTowards (num v) (num t) (num d) = num (ramp v t d) := by
  unfold moveTowards ramp
  simp only [zero_def, num_le, num_sub, abs_num, num_lt, lit, ofRat_eq]
  split_ifs <;> simp

namespace Rated

variable (h : s.Rated q)
include h

theorem delta (x : ℚ) : s.accelerationToVelocityDelta (num x) s.cycleTime =
    num (x * q.accelerationScale / q.velocityScale * q.cycle) := by
  rw [accelerationToVelocityDelta, h.accelerationScale, h.velocityScale, h.cycleTime, num_mul, num_div, num_mul]

theorem integrated {p : ℚ} (hp : s.actualPosition = num p) (v : ℚ) (backward : Bool) :
    (s.setVelocity (num v)).integrated = num (p + v * (q.approach backward).rate) := by
  change s.actualPosition + num v * s.velocityScale / s.positionScale * s.cycleTime = _
  rw [hp, h.velocityScale, h.positionScale, h.cycleTime, num_mul, num_div, num_mul, num_add]
  congr 1
  change _ = p + v * (q.velocityScale / q.positionScale * q.cycle)
  ring

end Rated

/-- The servo is `way` off its target, which lies in the direction `d`, and heads for it at speed `u`. -/
structure Aims (s : Servo ExtRat) (target d way u : ℚ) : Prop where
  aim : s.ppTargetPosition = num target
  position : s.actualPosition = num (target - d * way)
  velocity : s.actualVelocity = num (d * u)
  side : d = 1 ∧ 0 ≤ way ∨ d = -1 ∧ 0 < way

theorem exists_aims {p v target : ℚ} (hp : s.actualPosition = num p) (hv : s.actualVelocity = num v)
    (htarget : s.ppTargetPosition = num target) :
    ∃ d way u, s.Aims target d way u ∧ p = target - d * way ∧ v = d * u := by
  rcases le_or_gt p target with h | h
  · refine ⟨1, target - p, v, ⟨htarget, ?_, ?_, .inl ⟨rfl, by linarith⟩⟩, by ring, by ring⟩
    · rw [hp]
      congr 1
      ring
    · rw [hv, one_mul]
  · refine ⟨-1, p - target, -v, ⟨htarget, ?_, ?_, .inr ⟨rfl, by linarith⟩⟩, by ring, by ring⟩
    · rw [hp]
      congr 1
      ring
    · rw [hv]
      congr 1
      ring

/-- The servo after a cycle, with what is left of the way to the target and the speed towards it. -/
def placed (s : Servo ExtRat) (target d : ℚ) : Option (ℚ × ℚ) → Servo ExtRat
  | none => { s with actualPosition := num target, actualVelocity := 0, ppActive := false }
  | some (way, u) => { s with actualPosition := num (target - d * way), actualVelocity := num (d * u) }

theorem ramp_direction {d : ℚ} (hd : d = 1 ∨ d = -1) (u t delta : ℚ) :
    ramp (d * u) (d * t) delta = d * ramp u t delta := by
  rcases hd with rfl | rfl
  · simp only [one_mul]
  · simp only [neg_one_mul]
    exact ramp_neg u t delta

namespace Aims

variable {target d way u : ℚ} (h : s.Aims target d way u)
include h

omit h in
theorem abs_direction (hd : d = 1 ∨ d = -1) (x : ℚ) : |d * x| = |x| := by
  rcases hd with rfl | rfl
  · rw [one_mul]
  · rw [neg_one_mul, abs_neg]

theorem direction : d = 1 ∨ d = -1 := h.side.imp And.left And.left

theorem way_nonneg : 0 ≤ way := h.side.elim And.right fun hside => hside.2.le

theorem square : d * d = 1 := by
  rcases h.direction with rfl | rfl <;> norm_num

theorem error : s.ppTargetPosition - s.actualPosition = num (d * way) := by
  rw [h.aim, h.position, num_sub]
  congr 1
  ring

theorem ppDirection : s.ppDirection = num d := by
  unfold Servo.ppDirection
  rw [h.error]
  simp only [zero_def, num_le, lit, ofRat_eq]
  rcases h.side with ⟨rfl, hway⟩ | ⟨rfl, hway⟩
  · rw [if_pos (by linarith)]
  · rw [if_neg (by linarith)]

theorem distance : PyFloat.abs (s.ppTargetPosition - s.actualPosition) = num way := by
  rw [h.error, abs_num, abs_direction h.direction, abs_of_nonneg h.way_nonneg]

variable (hq : s.Rated q)
include hq

theorem maxVelocity : s.maxVelocity s.ppTargetPosition = num (q.approach (d < 0)).top := by
  have hbackward : target < target - d * way ↔ d < 0 := by
    rcases h.side with ⟨rfl, hway⟩ | ⟨rfl, hway⟩ <;> constructor <;> intro _ <;> linarith
  rw [h.aim]
  unfold Servo.maxVelocity
  dsimp only
  rw [h.position, hq.negative, hq.positive, hq.profile]
  simp only [num_lt, zero_def, hbackward]
  unfold Rates.approach Rates.limit
  simp only [decide_eq_true_eq]
  split_ifs <;> simp_all

theorem ppArrived : s.ppArrived = true ↔ way ≤ (q.approach (d < 0)).window ∧ |u| ≤ (q.approach (d < 0)).slack := by
  unfold Servo.ppArrived
  rw [decide_eq_true_eq, h.distance, h.velocity, hq.window, hq.decel, hq.delta]
  simp only [abs_num, num_le, lit, ofRat_eq, max_num, abs_direction h.direction]
  rfl

theorem stoppingDistance : s.stoppingDistance = .ok (num ((q.approach (d < 0)).stop u)) := by
  have hrate : s.accelerationToPositionRate (num q.decel) = num (q.decel * q.accelerationScale / q.positionScale) := by
    rw [accelerationToPositionRate, hq.accelerationScale, hq.positionScale, num_mul, num_div]
  have hspeed : s.velocityToPositionRate s.actualVelocity * s.ppDirection =
      num (u * q.velocityScale / q.positionScale) := by
    rw [velocityToPositionRate, h.velocity, hq.velocityScale, hq.positionScale, h.ppDirection, num_mul, num_div, num_mul]
    congr 1
    calc d * u * q.velocityScale / q.positionScale * d = d * d * (u * q.velocityScale / q.positionScale) := by ring
      _ = u * q.velocityScale / q.positionScale := by rw [h.square, one_mul]
  unfold Servo.stoppingDistance Rates.approach
  dsimp only
  rw [hq.decel, hrate, hspeed, zero_def, max_num]
  simp only [num_lt]
  split_ifs <;> rfl

/-- The velocity is ramped towards the target, or towards rest. -/
theorem speed (braking : Prop) [Decidable braking]
    (hbraking : braking ↔ u < 0 ∨ way ≤ (q.approach (d < 0)).stop u) :
    moveTowards s.actualVelocity (if braking then 0 else s.ppDirection * s.maxVelocity s.ppTargetPosition)
      (s.accelerationToVelocityDelta
        (if braking then PyFloat.abs (s.od.real Key.profileDeceleration)
          else PyFloat.abs (s.od.real Key.profileAcceleration)) s.cycleTime) =
      num (d * (q.approach (d < 0)).speed way u) := by
  rw [h.velocity, h.ppDirection, h.maxVelocity hq, hq.accel, hq.decel]
  unfold Approach.speed
  by_cases hb : braking
  · rw [if_pos hb, if_pos hb, if_pos (hbraking.mp hb), hq.delta, zero_def, moveTowards_ramp,
      ← ramp_direction h.direction, mul_zero]
    rfl
  · rw [if_neg hb, if_neg hb, if_neg (fun h => hb (hbraking.mpr h)), hq.delta, num_mul, moveTowards_ramp,
      ← ramp_direction h.direction]
    rfl

theorem ppAdvance : s.ppAdvance (num ((q.approach (d < 0)).stop u)) = s.placed target d
    (if way = 0 ∨ way - (q.approach (d < 0)).speed way u * (q.approach (d < 0)).rate ≤ 0 then none
      else some (way - (q.approach (d < 0)).speed way u * (q.approach (d < 0)).rate,
        (q.approach (d < 0)).speed way u)) := by
  have hbraking : (s.actualVelocity * s.ppDirection < 0 ∨
      PyFloat.abs (s.ppTargetPosition - s.actualPosition) ≤ num ((q.approach (d < 0)).stop u)) ↔
      u < 0 ∨ way ≤ (q.approach (d < 0)).stop u := by
    have hspeed : d * u * d = u := by
      calc d * u * d = d * d * u := by ring
        _ = u := by rw [h.square, one_mul]
    rw [h.ppDirection, h.velocity, h.distance, num_mul, hspeed, zero_def, num_lt, num_le]
  have hstep : ∀ velocity u', velocity = num (d * u') → (if
      same (s.ppTargetPosition - s.actualPosition) 0 ∨ (s.ppTargetPosition - s.actualPosition) *
        (s.ppTargetPosition - (s.setVelocity velocity).integrated) ≤ 0 then (s.setVelocity velocity).ppArrive
      else (s.setVelocity velocity).setPosition (s.setVelocity velocity).integrated) =
      s.placed target d (if way = 0 ∨ way - u' * (q.approach (d < 0)).rate ≤ 0 then none
        else some (way - u' * (q.approach (d < 0)).rate, u')) := by
    rintro velocity u' rfl
    have hnext := hq.integrated h.position (d * u') (d < 0)
    generalize (q.approach (d < 0)).rate = rate at hnext ⊢
    have hrest : (s.ppTargetPosition - s.actualPosition) *
        (s.ppTargetPosition - (s.setVelocity (num (d * u'))).integrated) = num (way * (way - u' * rate)) := by
      rw [h.error, hnext, h.aim, num_sub, num_mul]
      congr 1
      calc d * way * (target - (target - d * way + d * u' * rate)) = d * d * (way * (way - u' * rate)) := by ring
        _ = way * (way - u' * rate) := by rw [h.square, one_mul]
    have hpassed : way * (way - u' * rate) ≤ 0 ↔ way = 0 ∨ way - u' * rate ≤ 0 := by
      constructor
      · intro hle
        rcases h.way_nonneg.eq_or_lt with hzero | hpos
        · exact .inl hzero.symm
        · exact .inr (nonpos_of_mul_nonpos_right hle hpos)
      · rintro (hzero | hle)
        · rw [hzero, zero_mul]
        · exact mul_nonpos_of_nonneg_of_nonpos h.way_nonneg hle
    have hzero : same (s.ppTargetPosition - s.actualPosition) 0 = true ↔ way = 0 := by
      rw [h.error, zero_def, same_num, decide_eq_true_eq]
      rcases h.direction with rfl | rfl <;> simp
    have hends : (same (s.ppTargetPosition - s.actualPosition) 0 = true ∨ (s.ppTargetPosition - s.actualPosition) *
        (s.ppTargetPosition - (s.setVelocity (num (d * u'))).integrated) ≤ 0) ↔
        (way = 0 ∨ way - u' * rate ≤ 0) := by
      rw [hrest, hzero, zero_def, num_le, hpassed, or_self_left]
    by_cases hend : way = 0 ∨ way - u' * rate ≤ 0
    · rw [if_pos (hends.mpr hend), if_pos hend]
      unfold ppArrive placed
      rw [← h.aim]
      rfl
    · rw [if_neg (fun h => hend (hends.mp h)), if_neg hend, hnext]
      unfold placed Servo.setPosition Servo.setVelocity
      congr 2
      ring
  exact hstep _ _ (h.speed hq _ hbraking)

/-- A cycle of a move is a step of the approach. -/
theorem ppMove : ppMove s =
    updateTargetReached (s.placed target d ((q.approach (d < 0)).step (way, u))).writeActualFeedback := by
  have harrived := h.ppArrived hq
  unfold Servo.ppMove
  rw [Exec.run_bind_ok (Exec.run_get _)]
  unfold Approach.step
  dsimp only
  by_cases ha : s.ppArrived = true
  · rw [if_pos ha, if_pos (harrived.mp ha)]
    have hplaced : s.ppArrive = s.placed target d none := by
      unfold ppArrive placed
      rw [h.aim]
    rw [← hplaced]
    rfl
  · rw [if_neg ha, if_neg fun h => ha (harrived.mpr h)]
    rw [h.stoppingDistance hq, ← h.ppAdvance hq]
    rfl

end Aims

end Servo

end EthercatSimulator.Behaviour
