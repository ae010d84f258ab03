import EthercatSimulator.Behaviour.CycleTime
import EthercatSimulator.Behaviour.Positioning

/-! Whole moves of profile position mode, in exact arithmetic: they near the target without passing it,
and they end there. -/

namespace EthercatSimulator.Behaviour

open Base Profile Diagnostics PyFloat ExtRat

namespace Servo

variable {s s' : Servo ExtRat} {q : Rates}

/-- The drive follows set-points, and none is new. -/
structure Follows (s : Servo ExtRat) : Prop where
  enabled : s.enabled = true
  halt : s.haltActive = false
  referenced : s.homingReferenced = true
  edge : s.newSetpoint = false

/-- What a move is about. -/
def motion (s : Servo ExtRat) : ExtRat × ExtRat × Bool × ExtRat :=
  (s.actualPosition, s.actualVelocity, s.ppActive, s.ppTargetPosition)

/-! What a cycle keeps. -/

section Driven

variable (hd : s.Driven s')
include hd

theorem Driven.real {key : Key} (ht : key ≠ Key.targetPosition) (hp : key ≠ Key.actualPosition)
    (hv : key ≠ Key.actualVelocity) : s'.od.real key = s.od.real key := by
  unfold Od.real
  rw [hd.od key ht hp hv]

theorem Driven.unitScale {key : Key} (ht : key ≠ Key.targetPosition) (hp : key ≠ Key.actualPosition)
    (hv : key ≠ Key.actualVelocity) : s'.unitScale key = s.unitScale key := by
  unfold Servo.unitScale Od.int
  rw [hd.od key ht hp hv]

theorem Driven.cycleTime : s'.cycleTime = s.cycleTime := congrArg Setting.cycleTime hd.setting

theorem Rated.driven (h : s.Rated q) : s'.Rated q where
  profile := by
    unfold profileVelocity
    rw [hd.real (by decide) (by decide) (by decide)]
    exact h.profile
  positive := by
    unfold positiveLimit
    rw [hd.real (by decide) (by decide) (by decide)]
    exact h.positive
  negative := by
    unfold negativeLimit
    rw [hd.real (by decide) (by decide) (by decide)]
    exact h.negative
  accel := by
    rw [hd.real (by decide) (by decide) (by decide)]
    exact h.accel
  decel := by
    rw [hd.real (by decide) (by decide) (by decide)]
    exact h.decel
  window := by
    rw [hd.real (by decide) (by decide) (by decide)]
    exact h.window
  positionScale := by
    unfold Servo.positionScale
    rw [hd.unitScale (by decide) (by decide) (by decide)]
    exact h.positionScale
  velocityScale := by
    unfold Servo.velocityScale
    rw [hd.unitScale (by decide) (by decide) (by decide)]
    exact h.velocityScale
  accelerationScale := by
    unfold Servo.accelerationScale
    rw [hd.unitScale (by decide) (by decide) (by decide)]
    exact h.accelerationScale
  cycleTime := hd.cycleTime.trans h.cycleTime

theorem Exact.driven (h : s.Exact) : s'.Exact where
  parameters key hkey := by
    have hne : key ≠ Key.targetPosition ∧ key ≠ Key.actualPosition ∧ key ≠ Key.actualVelocity := by
      revert key
      decide
    rw [hd.real hne.1 hne.2.1 hne.2.2]
    exact h.parameters key hkey
  cycleTime := by
    rw [hd.cycleTime]
    exact h.cycleTime

end Driven

theorem processPp_referenced (s : Servo ExtRat) : (processPp s).2.homingReferenced = s.homingReferenced :=
  MotionParts.processPp (R := Exec.Fixes homingReferenced) ⟨fun _ _ _ => rfl, fun _ _ _ => rfl⟩ ⟨fun _ _ _ _ => rfl⟩ s

theorem Follows.next (h : s.Follows) : (processPp s).2.Follows := by
  have hd := Driven.processPp s
  refine ⟨?_, (congrArg Setting.haltActive hd.setting).trans h.halt, (processPp_referenced s).trans h.referenced,
    hd.newSetpoint.trans h.edge⟩
  unfold Servo.enabled
  rw [hd.sm]
  exact h.enabled

/-! One cycle. -/

theorem Exact.returns (he : s.Exact) : (processPp s).1 = .ok () := by
  obtain ⟨t, ht, hcycle⟩ := he.cycleTime
  have htimed : s.Timed t := ⟨hcycle, he.parameters _ (by decide)⟩
  obtain ⟨_, hruns⟩ := (processPp_runs htimed).mpr fun _ _ _ _ => ht.ne'
  exact hruns

theorem Follows.moves (h : s.Follows) (hactive : s.ppActive = true) {target d way u : ℚ}
    (haims : s.Aims target d way u) (hq : s.Rated q) :
    (processPp s).2.motion = (s.placed target d ((q.approach (d < 0)).step (way, u))).motion := by
  have hpp : processPp s = ppMove { s with ppSetpointAck := hasBits s.controlword 0x10 } := by
    unfold processPp
    rw [Exec.run_bind_ok (Exec.run_get _), Exec.when, if_pos h.enabled, if_neg (by simp [h.halt]),
      if_neg (by simp [h.referenced]), h.edge, Bool.false_and, if_neg Bool.false_ne_true]
    change (if s.followed.ppActive then ppMove else ppIdle) s.followed = _
    have hfollowed : s.followed = { s with ppSetpointAck := hasBits s.controlword 0x10 } := by
      unfold followed
      rw [h.edge]
      rfl
    rw [hfollowed]
    dsimp only
    rw [if_pos hactive]
  have haims' : Aims { s with ppSetpointAck := hasBits s.controlword 0x10 } target d way u :=
    ⟨haims.aim, haims.position, haims.velocity, haims.side⟩
  have hq' : Rated { s with ppSetpointAck := hasBits s.controlword 0x10 } q :=
    ⟨hq.profile, hq.positive, hq.negative, hq.accel, hq.decel, hq.window, hq.positionScale, hq.velocityScale,
      hq.accelerationScale, hq.cycleTime⟩
  rw [hpp, haims'.ppMove hq']
  refine updateTargetReached_post (P := fun r => r.motion = _) (fun _ _ _ hr => hr) ?_
  cases (q.approach (d < 0)).step (way, u) <;> rfl

/-! Nearing the target. -/

/-- The velocity is zero or points toward the target. -/
def Heads (s : Servo ExtRat) : Prop := ∃ p v target, s.actualPosition = num p ∧ s.actualVelocity = num v ∧
  s.ppTargetPosition = num target ∧ (v = 0 ∨ 0 < v * (target - p))

/-- From `s` to `s'` the way to the target has not grown and the target has not been passed. -/
structure Nears (s s' : Servo ExtRat) (target p p' v' : ℚ) : Prop where
  aim : s.ppTargetPosition = num target
  start : s.actualPosition = num p
  aim' : s'.ppTargetPosition = num target
  position : s'.actualPosition = num p'
  velocity : s'.actualVelocity = num v'
  nearer : |target - p'| ≤ |target - p|
  notPassed : 0 ≤ (target - p) * (target - p')
  heads : v' = 0 ∨ 0 < v' * (target - p')
  ends : s'.ppActive = false ↔ p' = target ∧ v' = 0

def Approaches (s s' : Servo ExtRat) : Prop := ∃ target p p' v', s.Nears s' target p p' v'

theorem Approaches.heads (h : s.Approaches s') : s'.Heads := by
  obtain ⟨target, p, p', v', h⟩ := h
  exact ⟨p', v', target, h.position, h.velocity, h.aim', h.heads⟩

theorem Approaches.trans {s'' : Servo ExtRat} (h : s.Approaches s') (h' : s'.Approaches s'') : s.Approaches s'' := by
  obtain ⟨target, p, p', v', h⟩ := h
  obtain ⟨_, _, p'', v'', h'⟩ := h'
  cases h.aim'.symm.trans h'.aim
  cases h.position.symm.trans h'.start
  refine ⟨target, p, p'', v'', h.aim, h.start, h'.aim', h'.position, h'.velocity, h'.nearer.trans h.nearer, ?_,
    h'.heads, h'.ends⟩
  have hside := h.notPassed
  have hside' := h'.notPassed
  rcases lt_trichotomy (target - p') 0 with hneg | hzero | hpos
  · exact mul_nonneg_of_nonpos_of_nonpos (nonpos_of_mul_nonneg_left hside hneg)
      (nonpos_of_mul_nonneg_right hside' hneg)
  · have hnearer := h'.nearer
    rw [hzero, abs_zero] at hnearer
    rw [abs_nonpos_iff.mp hnearer, mul_zero]
  · exact mul_nonneg (nonneg_of_mul_nonneg_left hside hpos) (nonneg_of_mul_nonneg_right hside' hpos)

theorem processPp_approaches (h : s.Follows) (he : s.Exact) (hactive : s.ppActive = true) (hheads : s.Heads) :
    s.Approaches (processPp s).2 := by
  obtain ⟨q, hq⟩ := he.rated
  obtain ⟨p, v, target, hp, hv, htarget, hheads⟩ := hheads
  obtain ⟨d, way, u, haims, rfl, rfl⟩ := exists_aims hp hv htarget
  have hspeed : 0 ≤ u := by
    have herror : d * u * (target - (target - d * way)) = d * d * (u * way) := by ring
    rw [herror, haims.square, one_mul] at hheads
    rcases hheads with hzero | hpos
    · rcases haims.direction with rfl | rfl <;> linarith
    · by_contra hneg
      exact absurd hpos (not_lt.mpr (mul_nonpos_of_nonpos_of_nonneg (not_le.mp hneg).le haims.way_nonneg))
  have hmotion := h.moves hactive haims hq
  have herror : ∀ x, target - (target - d * x) = d * x := fun x => by ring
  cases hstep : (q.approach (d < 0)).step (way, u) with
  | none =>
    rw [hstep] at hmotion
    obtain ⟨hp', hv', hactive', htarget'⟩ : _ ∧ _ ∧ _ ∧ _ := by simpa only [motion, placed, Prod.mk.injEq] using hmotion
    refine ⟨target, _, target, 0, htarget, hp, htarget'.trans htarget, hp', hv', ?_, ?_, .inl rfl,
      iff_of_true hactive' ⟨rfl, rfl⟩⟩
    · rw [sub_self, abs_zero]
      exact abs_nonneg _
    · rw [sub_self, mul_zero]
  | some x =>
    obtain ⟨way', u'⟩ := x
    rw [hstep] at hmotion
    obtain ⟨hp', hv', hactive', htarget'⟩ : _ ∧ _ ∧ _ ∧ _ := by simpa only [motion, placed, Prod.mk.injEq] using hmotion
    obtain ⟨hu', hway', hle⟩ := Approach.step_approaches hspeed hstep
    refine ⟨target, _, target - d * way', d * u', htarget, hp, htarget'.trans htarget, hp', hv', ?_, ?_, ?_, ?_⟩
    · rw [herror, herror, Aims.abs_direction haims.direction, Aims.abs_direction haims.direction,
        abs_of_pos hway', abs_of_nonneg haims.way_nonneg]
      exact hle
    · rw [herror, herror]
      have hprod : d * way * (d * way') = d * d * (way * way') := by ring
      rw [hprod, haims.square, one_mul]
      exact mul_nonneg haims.way_nonneg hway'.le
    · rw [herror]
      have hprod : d * u' * (d * way') = d * d * (u' * way') := by ring
      rw [hprod, haims.square, one_mul]
      rcases hu'.eq_or_lt with hzero | hpos
      · exact .inl (by rw [← hzero, mul_zero])
      · exact .inr (mul_pos hpos hway')
    · refine iff_of_false (by rw [hactive', hactive]; simp) fun hend => ?_
      have hzero : d * way' = 0 := by linarith [hend.1]
      rcases haims.direction with rfl | rfl <;> linarith

/-- A move, cycle by cycle; between cycles the parameters and the cycle time may change. -/
structure Move (cycles : Nat → Servo ExtRat) : Prop where
  follows : ∀ n, (cycles n).ppActive = true → (cycles n).Follows
  exact : ∀ n, (cycles n).ppActive = true → (cycles n).Exact
  next : ∀ n, (cycles n).ppActive = true → (cycles (n + 1)).motion = (processPp (cycles n)).2.motion

theorem Approaches.resumed {s'' : Servo ExtRat} (h : s.Approaches s') (hmotion : s''.motion = s'.motion) :
    s.Approaches s'' := by
  obtain ⟨target, p, p', v', h⟩ := h
  obtain ⟨hp, hv, hactive, htarget⟩ : _ ∧ _ ∧ _ ∧ _ := by simpa only [motion, Prod.mk.injEq] using hmotion
  exact ⟨target, p, p', v', h.aim, h.start, htarget.trans h.aim', hp.trans h.position, hv.trans h.velocity, h.nearer,
    h.notPassed, h.heads, hactive ▸ h.ends⟩

/-- As long as a move goes on, each cycle of it nears the target, and so does the move up to there. -/
theorem move_approaches {cycles : Nat → Servo ExtRat} (hmove : Move cycles) (hheads : (cycles 0).Heads) {n : Nat}
    (hactive : ∀ i ≤ n, (cycles i).ppActive = true) :
    (processPp (cycles n)).1 = .ok () ∧ (cycles n).Approaches (processPp (cycles n)).2 ∧
      (cycles 0).Approaches (processPp (cycles n)).2 := by
  induction n with
  | zero =>
    have hstep := processPp_approaches (hmove.follows 0 (hactive 0 le_rfl)) (hmove.exact 0 (hactive 0 le_rfl))
      (hactive 0 le_rfl) hheads
    exact ⟨(hmove.exact 0 (hactive 0 le_rfl)).returns, hstep, hstep⟩
  | succ n ih =>
    obtain ⟨-, -, hbefore⟩ := ih fun i hi => hactive i (Nat.le_succ_of_le hi)
    have hresumed := hbefore.resumed (hmove.next n (hactive n (Nat.le_succ n)))
    have hexact := hmove.exact (n + 1) (hactive (n + 1) le_rfl)
    have hstep := processPp_approaches (hmove.follows (n + 1) (hactive (n + 1) le_rfl)) hexact
      (hactive (n + 1) le_rfl) hresumed.heads
    exact ⟨hexact.returns, hstep, hresumed.trans hstep⟩

/-- The servo after a cycle of profile position mode. -/
def cycled (s : Servo ExtRat) : Servo ExtRat := (processPp s).2

/-- Cycles that only process the mode make a move. -/
theorem Follows.move (h : s.Follows) (he : s.Exact) : Move fun n => cycled^[n] s := by
  have hall : ∀ n, (cycled^[n] s).Follows ∧ (cycled^[n] s).Exact := by
    intro n
    induction n with
    | zero => exact ⟨h, he⟩
    | succ n ih =>
      rw [Function.iterate_succ_apply']
      exact ⟨ih.1.next, ih.2.driven (Driven.processPp _)⟩
  refine ⟨fun n _ => (hall n).1, fun n _ => (hall n).2, fun n _ => ?_⟩
  rw [Function.iterate_succ_apply']
  rfl

/-- A drive on its way to 100000 at 50 ms a cycle. -/
def underWay : Servo ExtRat := { (construct .linear).write Key.profileVelocity (.int 200) with
  sm := .operationEnabled, homingReferenced := true, ppActive := true, ppTargetPosition := num 100000
  cycleTime := num (1 / 20) }

theorem underWay_follows : underWay.Follows := ⟨rfl, rfl, rfl, by decide⟩

theorem underWay_exact : underWay.Exact := by
  have hnum : ∀ key ∈ ppParameters, (underWay.od.real key).toInt.isOk = true := by decide +kernel
  refine ⟨fun key hkey => ?_, 1 / 20, by norm_num, rfl⟩
  have hkey' := hnum key hkey
  cases hreal : underWay.od.real key with
  | num x => exact ⟨x, rfl⟩
  | posInf | negInf | nan =>
    rw [hreal] at hkey'
    cases hkey'

theorem move_approaches_underWay : (cycled^[2] underWay).ppActive = true ∧
    underWay.Approaches (processPp (cycled^[2] underWay)).2 := by
  have hactive : ∀ i ≤ 2, (cycled^[i] underWay).ppActive = true := by decide +kernel
  exact ⟨hactive 2 le_rfl, (move_approaches (underWay_follows.move underWay_exact)
    ⟨0, 0, 100000, rfl, rfl, rfl, .inl rfl⟩ hactive).2.2⟩

/-! Finishing. -/

/-- The approach of the target ends, and the move with it. -/
theorem finishes_of_acc {target d : ℚ} {x : ℚ × ℚ} (hacc : Acc (fun y x => (q.approach (d < 0)).step x = some y) x)
    (h : s.Follows) (he : s.Exact) (hactive : s.ppActive = true) (haims : s.Aims target d x.1 x.2) (hq : s.Rated q) :
    ∃ n, (∀ m < n, (processPp (cycled^[m] s)).1 = .ok ()) ∧
      (cycled^[n] s).motion = (num target, 0, false, num target) := by
  induction hacc generalizing s with
  | intro x _ ih =>
    obtain ⟨way, u⟩ := x
    have hmotion := h.moves hactive haims hq
    cases hstep : (q.approach (d < 0)).step (way, u) with
    | none =>
      rw [hstep] at hmotion
      refine ⟨1, fun m hm => ?_, ?_⟩
      · cases Nat.lt_one_iff.mp hm
        exact he.returns
      · change (processPp s).2.motion = _
        rw [hmotion, motion, placed, haims.aim]
    | some y =>
      obtain ⟨way', u'⟩ := y
      rw [hstep] at hmotion
      obtain ⟨hp, hv, hactive', htarget⟩ : _ ∧ _ ∧ _ ∧ _ := by
        simpa only [motion, placed, Prod.mk.injEq] using hmotion
      obtain ⟨-, hway', -, -⟩ := Approach.step_some hstep
      have haims' : (cycled s).Aims target d way' u' :=
        ⟨htarget.trans haims.aim, hp, hv, haims.side.imp (fun hs => ⟨hs.1, hway'.le⟩) fun hs => ⟨hs.1, hway'⟩⟩
      have hd : s.Driven (cycled s) := Driven.processPp s
      obtain ⟨n, hreturns, hend⟩ := ih (way', u') hstep h.next (he.driven hd) (hactive'.trans hactive) haims'
        (hq.driven hd)
      refine ⟨n + 1, fun m hm => ?_, hend⟩
      cases m with
      | zero => exact he.returns
      | succ m => exact hreturns m (Nat.lt_of_succ_lt_succ hm)

/-- A move whose parameters stay as they are ends at its target, at rest. -/
theorem move_finishes (h : s.Follows) (he : s.Exact) (hactive : s.ppActive = true) {p v target : ℚ}
    (hp : s.actualPosition = num p) (hv : s.actualVelocity = num v) (htarget : s.ppTargetPosition = num target)
    (haccel : 0 < s.od.real Key.profileAcceleration) (hdecel : 0 < s.od.real Key.profileDeceleration)
    (hmax : 0 < s.maxVelocity s.ppTargetPosition) :
    ∃ n, (∀ m < n, (processPp (cycled^[m] s)).1 = .ok ()) ∧ (cycled^[n] s).ppActive = false ∧
      (cycled^[n] s).actualPosition = (cycled^[n] s).ppTargetPosition ∧
      (cycled^[n] s).ppTargetPosition = s.ppTargetPosition ∧ (cycled^[n] s).actualVelocity = 0 := by
  obtain ⟨q, hq⟩ := he.rated
  obtain ⟨d, way, u, haims, -, -⟩ := exists_aims hp hv htarget
  obtain ⟨a, ha⟩ := he.parameters Key.profileAcceleration (by decide)
  obtain ⟨b, hb⟩ := he.parameters Key.profileDeceleration (by decide)
  have haccel' := hq.accel
  have hdecel' := hq.decel
  rw [ha, zero_def, num_lt] at haccel
  rw [hb, zero_def, num_lt] at hdecel
  rw [ha, abs_num, abs_of_pos haccel] at haccel'
  rw [hb, abs_num, abs_of_pos hdecel] at hdecel'
  cases haccel'
  cases hdecel'
  rw [haims.maxVelocity hq, zero_def, num_lt] at hmax
  have hdelta : ∀ x : ℚ, 0 < x → 0 < x * q.accelerationScale / q.velocityScale * q.cycle := fun x hx =>
    mul_pos (div_pos (mul_pos hx q.accelerationScale_pos) q.velocityScale_pos) q.cycle_pos
  have hacc := (q.approach (d < 0)).acc_step hmax (hdelta _ haccel) (hdelta _ hdecel) (x := (way, u)) haims.way_nonneg
  obtain ⟨n, hreturns, hend⟩ := finishes_of_acc hacc h he hactive haims hq
  obtain ⟨hp', hv', hactive', htarget'⟩ : _ ∧ _ ∧ _ ∧ _ := by simpa only [motion, Prod.mk.injEq] using hend
  exact ⟨n, hreturns, hactive', hp'.trans htarget'.symm, htarget'.trans htarget.symm, hv'⟩

theorem move_finishes_underWay : ∃ n, (cycled^[n] underWay).ppActive = false ∧
    (cycled^[n] underWay).actualPosition = (cycled^[n] underWay).ppTargetPosition := by
  obtain ⟨n, -, hend, hposition, -⟩ := move_finishes underWay_follows underWay_exact rfl (p := 0) (v := 0) rfl rfl rfl
    (by decide +kernel) (by decide +kernel) (by decide +kernel)
  exact ⟨n, hend, hposition⟩

end Servo

end EthercatSimulator.Behaviour
