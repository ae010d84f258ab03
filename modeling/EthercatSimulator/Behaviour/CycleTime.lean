import EthercatSimulator.Behaviour.Acknowledge
import EthercatSimulator.Behaviour.SoundLaws

/-! Which updates divide by the cycle time. -/

namespace EthercatSimulator.Behaviour

open Base Profile Diagnostics PyFloat ExtRat

namespace Servo

/-- The motion law of the mode counts the cycles of a time: the position window's, or the one a
homing run takes. -/
def countsCycles {F : Type} [PyFloat F] (s : Servo F) : Bool :=
  let mode := s.od.int Key.modeOfOperation
  let follows := !s.haltActive && s.homingReferenced
  s.enabled && (mode = 1 && follows && !(s.newSetpoint && s.positionTargetRejected) ||
    mode = 8 && follows || mode = 6 && s.newSetpoint)

/-- Numbers the laws divide by each other. -/
structure Timed (s : Servo ExtRat) (dt : ℚ) : Prop where
  cycleTime : s.cycleTime = num dt
  windowTime : ∃ w, s.od.real Key.positionWindowTime = num w

variable {s s' : Servo ExtRat} {dt : ℚ}

theorem Timed.driven (h : s.Timed dt) (hd : s.Driven s') : s'.Timed dt := by
  refine ⟨(congrArg Setting.cycleTime hd.setting).trans h.cycleTime, ?_⟩
  unfold Od.real
  rw [hd.od _ (by decide) (by decide) (by decide)]
  exact h.windowTime

theorem cyclesIn_ok {p q : ℚ} : (∃ n, cyclesIn (num p) (num q) = .ok n) ↔ q ≠ 0 := by
  unfold cyclesIn floatDiv
  rw [zero_def, same_num]
  by_cases hq : q = 0
  · rw [if_pos (decide_eq_true hq)]
    exact iff_of_false nofun (not_not.mpr hq)
  · rw [if_neg (by simpa using hq)]
    exact iff_of_true ⟨_, rfl⟩ hq

theorem updateTargetReached_runs (h : s.Timed dt) : updateTargetReached.Runs s ↔ dt ≠ 0 := by
  obtain ⟨w, hw⟩ := h.windowTime
  have hcount (q : Servo ExtRat) (hq : q.od = s.od) (hc : q.cycleTime = s.cycleTime) :
      (∃ n, cyclesIn (q.od.real Key.positionWindowTime) (q.cycleTime * lit 1000) = .ok n) ↔ dt ≠ 0 := by
    rw [hq, hc, hw, h.cycleTime]
    change (∃ n, cyclesIn (num w) (num (dt * 1000)) = .ok n) ↔ dt ≠ 0
    rw [cyclesIn_ok, mul_ne_zero_iff]
    exact and_iff_left (by norm_num)
  unfold updateTargetReached
  simp only [Exec.runs_modify_bind, Exec.runs_get_bind, Exec.runs_ofExcept_bind, Exec.runs_modify,
    and_true]
  apply hcount
  · split_ifs <;> rfl
  · split_ifs <;> rfl

theorem startHoming_runs (h : s.Timed dt) : startHoming.Runs s ↔ dt ≠ 0 := by
  unfold startHoming
  simp only [Exec.runs_modify_bind, Exec.runs_get_bind, Exec.runs_ofExcept_bind, Exec.runs_modify,
    and_true]
  rw [h.cycleTime]
  exact cyclesIn_ok

theorem processHoming_runs (h : s.Timed dt) :
    processHoming.Runs s ↔ (s.enabled = true → s.newSetpoint = true → dt ≠ 0) := by
  unfold processHoming
  simp only [Exec.runs_get_bind, Exec.runs_when]
  refine forall_congr' fun _ => ?_
  rw [Exec.runs_bind]
  simp only [Exec.runs_modify, and_true]
  change (Exec.when _ startHoming).Runs s ↔ _
  rw [Exec.runs_when]
  exact forall_congr' fun _ => startHoming_runs h

theorem stoppingDistance_ok (s : Servo ExtRat) : ∃ d, s.stoppingDistance = .ok d := by
  unfold stoppingDistance
  dsimp only
  split
  · exact ⟨_, rfl⟩
  · exact ⟨_, rfl⟩

theorem ppMove_runs (h : s.Timed dt) : ppMove.Runs s ↔ dt ≠ 0 := by
  obtain ⟨d, hd⟩ := s.stoppingDistance_ok
  unfold ppMove
  rw [Exec.runs_get_bind]
  split
  · simp only [Exec.runs_modify_bind]
    exact updateTargetReached_runs (h.driven ((Driven.ppArrive s).trans (.writeActualFeedback _)))
  · rw [hd]
    simp only [Exec.runs_ofExcept_bind, Except.ok.injEq, exists_eq_left', Exec.runs_modify_bind]
    exact updateTargetReached_runs (h.driven ((Driven.ppAdvance s d).trans (.writeActualFeedback _)))

theorem ppFollow_runs (h : s.Timed dt) : ppFollow.Runs s ↔ dt ≠ 0 := by
  have hfollowed : s.followed.Timed dt := by
    unfold followed
    dsimp only
    split <;> exact ⟨h.cycleTime, h.windowTime⟩
  change (if s.followed.ppActive then ppMove else ppIdle).Runs s.followed ↔ _
  split
  · exact ppMove_runs hfollowed
  · exact updateTargetReached_runs (hfollowed.driven (.slowed _))

theorem processPp_runs (h : s.Timed dt) : processPp.Runs s ↔ (s.enabled = true →
    s.haltActive = false → s.homingReferenced = true →
      (s.newSetpoint && s.positionTargetRejected) = false → dt ≠ 0) := by
  unfold processPp
  rw [Exec.runs_get_bind, Exec.runs_when]
  refine forall_congr' fun _ => ?_
  split
  · simp [*]
  · split
    · simp_all
    · split
      · simp_all
      · rw [ppFollow_runs h]
        simp_all

theorem processCsp_runs (h : s.Timed dt) : processCsp.Runs s ↔ (s.enabled = true →
    s.haltActive = false → s.homingReferenced = true → dt ≠ 0) := by
  unfold processCsp
  rw [Exec.runs_get_bind, Exec.runs_when]
  refine forall_congr' fun _ => ?_
  split
  · simp_all
  · split
    · simp_all
    · have hstep : s.cspStep.Timed dt := h.driven
        (((Driven.setVelocity s _).trans (.setPosition _ _)).trans (.writeActualFeedback _))
      rw [Exec.runs_modify_bind, updateTargetReached_runs hstep]
      simp_all

theorem processMode_runs (h : s.Timed dt) {mode : Int} (hmode : s.od.int Key.modeOfOperation = mode) :
    (processMode mode).Runs s ↔ dt ≠ 0 ∨ s.countsCycles = false := by
  unfold processMode countsCycles
  rw [hmode]
  split_ifs with h1 h3 h8 h6 hj
  · rw [processPp_runs h, h1]
    cases s.enabled <;> cases s.haltActive <;> cases s.homingReferenced <;>
      cases (s.newSetpoint && s.positionTargetRejected) <;> simp
  · unfold processPv
    subst h3
    simp
  · rw [processCsp_runs h, h8]
    cases s.enabled <;> cases s.haltActive <;> cases s.homingReferenced <;> simp
  · rw [processHoming_runs h, h6]
    cases s.enabled <;> cases s.newSetpoint <;> simp
  · unfold processJog
    subst hj
    simp
  · simp [h1, h8, h6]

/-- The next update counts the cycles of a time: the drive is enabled, and a homing edge is seen
or a position followed. -/
def WillCount {F : Type} [PyFloat F] (s : Servo F) : Prop :=
  let mode := s.od.int Key.modeOfOperation
  s.deviceResetRequested = false ∧ s.sm.process s.controlword = .operationEnabled ∧
    (mode = 6 ∧ s.newSetpoint = true ∨
      (mode = 1 ∨ mode = 8) ∧ hasBits s.controlword 0x100 = false ∧ s.homingReferenced = true ∧
        ¬ (mode = 1 ∧ s.newSetpoint = true ∧ s.started.positionTargetRejected = true))

theorem started_countsCycles : s.started.countsCycles = true ↔ s.WillCount := by
  have hreset : s.started.enabled = true → s.deviceResetRequested = false := fun h => (s.started_enabled.mp h).1
  unfold WillCount
  rw [← and_assoc, ← started_enabled]
  unfold countsCycles
  cases henabled : s.started.enabled with
  | false => simp
  | true =>
    have hplain := hreset henabled
    have hmode : s.started.od.int Key.modeOfOperation = s.od.int Key.modeOfOperation := by
      rw [started_mode, applyOdCommands_mode, hplain]
      rfl
    have hhalt : s.started.haltActive = hasBits s.controlword 0x100 := by
      rw [started_haltActive, started_controlword, applyOdCommands_controlword, hplain]
      rfl
    rw [hmode, hhalt, started_newSetpoint_eq hplain, s.started_spec.homingReferenced]
    by_cases h1 : s.od.int Key.modeOfOperation = 1
    · cases s.newSetpoint <;> simp [h1, and_assoc]
    · by_cases h8 : s.od.int Key.modeOfOperation = 8
      · simp [h8]
      · simp [h1, h8]

/-- An update from a sound dictionary returns unless it counts cycles of no length. -/
theorem modelUpdate_runs (hs : s.od.Sound) (hdt : s.cycleTime = num dt) :
    modelUpdate.Runs s ↔ dt ≠ 0 ∨ ¬ s.WillCount := by
  have htimed : s.started.Timed dt := by
    refine ⟨s.started_spec.cycleTime.trans hdt, ?_⟩
    exact (started_sound hs).real_num Key.positionWindowTime rfl (by simp [Key.isMotion]) (by decide)
  rw [← started_countsCycles, Bool.not_eq_true, ← processMode_runs htimed rfl]
  change (processMode (s.started.od.int Key.modeOfOperation) >>= fun _ => _).Runs s.started ↔ _
  rw [Exec.runs_bind]
  simp only [Exec.runs_modify, and_true]
  exact Iff.rfl

end Servo

end EthercatSimulator.Behaviour
