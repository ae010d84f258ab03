import EthercatSimulator.Behaviour.Interruption
import EthercatSimulator.Behaviour.RestLaws
import EthercatSimulator.Profile.Numeric

/-! In exact arithmetic every position and velocity is a number, and stays one. -/

namespace EthercatSimulator.Behaviour

open Base Profile Diagnostics PyFloat ExtRat

namespace Servo

structure Finite (s : Servo ExtRat) : Prop where
  sound : s.od.Sound
  numeric : s.od.Numeric
  actualPosition : ∃ q, s.actualPosition = num q
  actualVelocity : ∃ q, s.actualVelocity = num q
  ppTargetPosition : ∃ q, s.ppTargetPosition = num q
  lastTargetPositionCommand : s.lastTargetPositionCommand.Numeric
  kp : s.kp = num 5

variable {s : Servo ExtRat}

theorem construct_finite (mode : AxisMode) : (construct mode : Servo ExtRat).Finite :=
  ⟨configured_sound mode, configured_numeric mode, ⟨0, rfl⟩, ⟨0, rfl⟩, ⟨0, rfl⟩,
    configured_numeric mode _ (.inl rfl), rfl⟩

namespace Finite

/-! Commands. -/

/-- What commands can do to a finite servo but for the dictionary's integers. -/
structure Numbers (s : Servo ExtRat) : Prop where
  numeric : s.od.Numeric
  actualPosition : ∃ q, s.actualPosition = num q
  actualVelocity : ∃ q, s.actualVelocity = num q
  ppTargetPosition : ∃ q, s.ppTargetPosition = num q
  lastTargetPositionCommand : s.lastTargetPositionCommand.Numeric

theorem numbers (h : s.Finite) : Numbers s :=
  ⟨h.numeric, h.actualPosition, h.actualVelocity, h.ppTargetPosition, h.lastTargetPositionCommand⟩

theorem numeric_float {x : ExtRat} (h : ∃ q, x = num q) : (Value.float x : Value ExtRat).Numeric := by
  obtain ⟨q, rfl⟩ := h
  exact numeric_num q

theorem Numbers.writeInt (h : Numbers s) (key : Key) (n : Int) : Numbers (s.write key (.int n)) :=
  ⟨h.numeric.write key fun _ => numeric_int n, h.actualPosition, h.actualVelocity,
    h.ppTargetPosition, h.lastTargetPositionCommand⟩

theorem feedback_numeric {od : Od ExtRat} (h : od.Numeric) {x y : ExtRat} (hx : ∃ q, x = num q)
    (hy : ∃ q, y = num q) :
    ((od.write Key.actualPosition (.float x)).write Key.actualVelocity (.float y)).Numeric :=
  (h.write _ fun _ => numeric_float hx).write _ fun _ => numeric_float hy

theorem Numbers.stopAtCurrentPosition (h : Numbers s) : Numbers s.stopAtCurrentPosition :=
  ⟨feedback_numeric (h.numeric.write _ fun _ => numeric_float h.actualPosition) h.actualPosition
      ⟨0, rfl⟩, h.actualPosition, ⟨0, rfl⟩, h.actualPosition, numeric_float h.actualPosition⟩

theorem Numbers.setMode (h : Numbers s) (mode previous : Int) : Numbers (s.setMode mode previous) := by
  have hstop : Numbers (if mode ≠ previous then
      (if mode ≠ 6 then { s.stopAtCurrentPosition with homingActive := false, homingError := false }
        else s.stopAtCurrentPosition) else s) := by
    have hstopped := h.stopAtCurrentPosition
    split_ifs
    · exact ⟨hstopped.1, hstopped.2, hstopped.3, hstopped.4, hstopped.5⟩
    · exact hstopped
    · exact h
  have hwritten := (hstop.writeInt Key.modeOfOperation mode).writeInt Key.modeOfOperationDisplay mode
  exact ⟨hwritten.1, hwritten.2, hwritten.3, hwritten.4, hwritten.5⟩

theorem Numbers.writeTarget (h : Numbers s) {v : Value ExtRat} (hv : v.Numeric) :
    Numbers { s.write Key.targetPosition v with lastTargetPositionCommand := v } :=
  ⟨h.numeric.write _ fun _ => hv, h.actualPosition, h.actualVelocity, h.ppTargetPosition, hv⟩

theorem Numbers.setTargetPosition (h : Numbers s) {position previous : Value ExtRat}
    (hposition : position.Numeric) (hprevious : previous.Numeric) :
    Numbers (s.setTargetPosition position previous) := by
  have haccepted : Numbers { s.write Key.targetPosition position with
      lastTargetPositionCommand := position } := h.writeTarget hposition
  unfold Servo.setTargetPosition
  dsimp only
  split_ifs
  · exact h.writeTarget hprevious
  · have hrejected : Numbers { s with softwareLimitWarning := true, positionTargetRejected := true } :=
      ⟨h.1, h.2, h.3, h.4, h.5⟩
    have hstopped := hrejected.stopAtCurrentPosition
    exact ⟨hstopped.1, hstopped.2, hstopped.3, hstopped.4, hstopped.5⟩
  all_goals exact ⟨haccepted.1, haccepted.2, haccepted.3, haccepted.4, haccepted.5⟩

theorem Numbers.applyDeviceReset (h : Numbers s) : Numbers s.applyDeviceReset := by
  have hcurrent : (s.od.read Key.actualPosition).Numeric := h.numeric _ (.inr (.inl rfl))
  unfold Servo.applyDeviceReset
  dsimp only
  split_ifs
  · have hod : ((s.od.resetNonPdoConfiguration s.axisMode).resetPdoValues).Numeric :=
      (h.numeric.resetNonPdoConfiguration s.axisMode).resetPdoValues
    have hmotion := (hod.write Key.targetPosition fun _ => hcurrent).write Key.actualPosition
      fun _ => hcurrent
    have hstatus := hmotion.write Key.statusword fun _ => numeric_int 0x0027
    refine ⟨hstatus.write _ fun hkey => ?_, h.actualPosition, h.actualVelocity, h.ppTargetPosition,
      hcurrent⟩
    rcases hkey with hkey | hkey | hkey <;> cases hkey
  · exact ⟨h.numeric, h.actualPosition, h.actualVelocity, h.ppTargetPosition,
      h.lastTargetPositionCommand⟩

theorem Numbers.applyParameterSave (h : Numbers s) : Numbers s.applyParameterSave := by
  unfold Servo.applyParameterSave
  dsimp only
  split_ifs
  · refine ⟨h.numeric.writeAll fun kv hkv _ => ?_, h.actualPosition, h.actualVelocity,
      h.ppTargetPosition, h.lastTargetPositionCommand⟩
    simp only [List.mem_cons, List.not_mem_nil, or_false] at hkv
    rcases hkv with rfl | rfl | rfl <;> exact numeric_int _
  · exact ⟨h.numeric, h.actualPosition, h.actualVelocity, h.ppTargetPosition,
      h.lastTargetPositionCommand⟩

theorem Numbers.applyMotionCommands (h : Numbers s) : Numbers s.applyMotionCommands := by
  have hfollowed : Numbers s.followMode := by
    unfold followMode
    split_ifs
    · exact h.setMode _ _
    · exact h
  change Numbers (if (s.od.read Key.targetPosition).same s.followMode.lastTargetPositionCommand then
    s.followMode else s.followMode.setTargetPosition _ _)
  split
  · exact hfollowed
  · exact hfollowed.setTargetPosition (h.numeric _ (.inl rfl)) hfollowed.lastTargetPositionCommand

theorem started (h : s.Finite) : s.started.Finite := by
  have hcommanded : Numbers s.applyOdCommands :=
    h.numbers.applyDeviceReset.applyParameterSave.applyMotionCommands
  have hstarted : Numbers s.started := by
    unfold Servo.started processStateMachine
    have hmachine : Numbers { s.applyOdCommands with
        haltActive := hasBits s.applyOdCommands.controlword 0x100
        sm := s.applyOdCommands.sm.process s.applyOdCommands.controlword } :=
      ⟨hcommanded.1, hcommanded.2, hcommanded.3, hcommanded.4, hcommanded.5⟩
    dsimp only
    split_ifs
    · exact hmachine.stopAtCurrentPosition
    · exact hmachine
  have hkp : s.started.kp = s.kp := congrArg (fun l => l.2.1) s.started_lawful
  exact ⟨started_sound h.sound, hstarted.numeric, hstarted.actualPosition, hstarted.actualVelocity,
    hstarted.ppTargetPosition, hstarted.lastTargetPositionCommand, hkp.trans h.kp⟩

end Finite

end Servo

end EthercatSimulator.Behaviour
