import EthercatSimulator.Behaviour.ServoLaws

/-! What the commands of the object dictionary do to the servo before the cycle runs. -/

namespace EthercatSimulator.Behaviour

open Base Profile Diagnostics PyFloat

namespace Servo

variable {F : Type} [PyFloat F] {s s' s'' : Servo F}

/-- A command moves nothing and starts nothing. -/
structure Commanded (s s' : Servo F) : Prop where
  axisMode : s'.axisMode = s.axisMode
  cycleTime : s'.cycleTime = s.cycleTime
  sm : s'.sm = s.sm
  previousControlword : s'.previousControlword = s.previousControlword
  actualPosition : s'.actualPosition = s.actualPosition
  actualVelocity : s'.actualVelocity = s.actualVelocity ∨ s'.actualVelocity = 0
  ppActive : s'.ppActive = true → s.ppActive = true
  homingActive : s'.homingActive = true → s.homingActive = true
  homingReferenced : s'.homingReferenced = s.homingReferenced
  homingError : s'.homingError = true → s.homingError = true

namespace Commanded

theorem refl (s : Servo F) : s.Commanded s := ⟨rfl, rfl, rfl, rfl, rfl, .inl rfl, id, id, rfl, id⟩

theorem trans (h : s.Commanded s') (h' : s'.Commanded s'') : s.Commanded s'' where
  axisMode := h'.axisMode.trans h.axisMode
  cycleTime := h'.cycleTime.trans h.cycleTime
  sm := h'.sm.trans h.sm
  previousControlword := h'.previousControlword.trans h.previousControlword
  actualPosition := h'.actualPosition.trans h.actualPosition
  actualVelocity := h'.actualVelocity.elim (fun e => h.actualVelocity.imp e.trans e.trans) .inr
  ppActive := h.ppActive ∘ h'.ppActive
  homingActive := h.homingActive ∘ h'.homingActive
  homingReferenced := h'.homingReferenced.trans h.homingReferenced
  homingError := h.homingError ∘ h'.homingError

theorem ite {c : Prop} [Decidable c] {a b : Servo F} (ha : s.Commanded a) (hb : s.Commanded b) :
    s.Commanded (if c then a else b) := by
  split
  · exact ha
  · exact hb

theorem stopAtCurrentPosition (s : Servo F) : s.Commanded s.stopAtCurrentPosition :=
  ⟨rfl, rfl, rfl, rfl, rfl, .inr rfl, (fun h => by cases h), id, rfl, id⟩

theorem setMode (s : Servo F) (mode previous : Int) : s.Commanded (s.setMode mode previous) := by
  have hcleared : s.Commanded
      { s.stopAtCurrentPosition with homingActive := false, homingError := false } :=
    ⟨rfl, rfl, rfl, rfl, rfl, .inr rfl, (fun h => by cases h), (fun h => by cases h), rfl,
      fun h => by cases h⟩
  have hstop : s.Commanded (if mode ≠ previous then
      (if mode ≠ 6 then { s.stopAtCurrentPosition with homingActive := false, homingError := false }
        else s.stopAtCurrentPosition) else s) :=
    ite (ite hcleared (stopAtCurrentPosition s)) (refl s)
  exact hstop.trans ⟨rfl, rfl, rfl, rfl, rfl, .inl rfl, id, id, rfl, id⟩

theorem setTargetPosition (s : Servo F) (position previous : Value F) :
    s.Commanded (s.setTargetPosition position previous) := by
  unfold Servo.setTargetPosition
  apply ite
  · exact ⟨rfl, rfl, rfl, rfl, rfl, .inl rfl, id, id, rfl, id⟩
  · apply ite
    · exact ⟨rfl, rfl, rfl, rfl, rfl, .inr rfl, (fun h => by cases h), id, rfl, id⟩
    · have hwarning : s.Commanded (if actualPositionExceedsSoftwareLimits
            { s with positionTargetRejected := false } then { s with positionTargetRejected := false }
          else { s with positionTargetRejected := false, softwareLimitWarning := false }) :=
        ite ⟨rfl, rfl, rfl, rfl, rfl, .inl rfl, id, id, rfl, id⟩
          ⟨rfl, rfl, rfl, rfl, rfl, .inl rfl, id, id, rfl, id⟩
      have hreached : ∀ w : Servo F, w.Commanded (if position.same previous then w
          else { w with targetReached := false, windowCounter := 0 }) := fun w =>
        ite (refl w) ⟨rfl, rfl, rfl, rfl, rfl, .inl rfl, id, id, rfl, id⟩
      exact (hwarning.trans (hreached _)).trans ⟨rfl, rfl, rfl, rfl, rfl, .inl rfl, id, id, rfl, id⟩

theorem applyDeviceReset (s : Servo F) : s.Commanded s.applyDeviceReset := by
  have hreset : s.Commanded (if s.deviceResetRequested then s.applyDeviceResetResponse else s) :=
    ite ⟨rfl, rfl, rfl, rfl, rfl, .inl rfl, id, id, rfl, id⟩ (refl s)
  exact hreset.trans ⟨rfl, rfl, rfl, rfl, rfl, .inl rfl, id, id, rfl, id⟩

theorem applyParameterSave (s : Servo F) : s.Commanded s.applyParameterSave := by
  have hsave : s.Commanded (if s.parameterSaveRequested then
      { s with od := s.od.writeAll [(Key.parameterSaveStatus, .int 0),
        (Key.parameterSaveReturnCode, .int 0), (Key.parameterSaveReturnValue, .int 1)] }
      else s) := ite ⟨rfl, rfl, rfl, rfl, rfl, .inl rfl, id, id, rfl, id⟩ (refl s)
  exact hsave.trans ⟨rfl, rfl, rfl, rfl, rfl, .inl rfl, id, id, rfl, id⟩

theorem applyMotionCommands (s : Servo F) : s.Commanded s.applyMotionCommands := by
  have hmode : s.Commanded (if s.od.int Key.modeOfOperation ≠ s.lastModeCommand then
      s.setMode (s.od.int Key.modeOfOperation) s.lastModeCommand else s) :=
    ite (setMode s _ _) (refl s)
  exact hmode.trans (ite (refl _) (setTargetPosition _ _ _))

theorem applyOdCommands (s : Servo F) : s.Commanded s.applyOdCommands :=
  ((applyDeviceReset s).trans (applyParameterSave _)).trans (applyMotionCommands _)

end Commanded

theorem stopAtCurrentPosition_od (s : Servo F) {key : Key} (ht : key ≠ Key.targetPosition)
    (hp : key ≠ Key.actualPosition) (hv : key ≠ Key.actualVelocity) :
    s.stopAtCurrentPosition.od key = s.od key := by
  unfold Servo.stopAtCurrentPosition Servo.writeActualFeedback
  dsimp only
  rw [write_od_of_ne _ _ hv, write_od_of_ne _ _ hp, write_od_of_ne _ _ ht]

/-- A new target leaves the mode and its commands alone. -/
structure Retargeted (s s' : Servo F) : Prop where
  lastModeCommand : s'.lastModeCommand = s.lastModeCommand
  homingActive : s'.homingActive = s.homingActive
  od : ∀ key, key ≠ Key.targetPosition → key ≠ Key.actualPosition → key ≠ Key.actualVelocity →
    s'.od key = s.od key

namespace Retargeted

omit [PyFloat F] in
theorem refl (s : Servo F) : s.Retargeted s := ⟨rfl, rfl, fun _ _ _ _ => rfl⟩

omit [PyFloat F] in
theorem trans (h : s.Retargeted s') (h' : s'.Retargeted s'') : s.Retargeted s'' where
  lastModeCommand := h'.lastModeCommand.trans h.lastModeCommand
  homingActive := h'.homingActive.trans h.homingActive
  od key ht hp hv := (h'.od key ht hp hv).trans (h.od key ht hp hv)

omit [PyFloat F] in
theorem ite {c : Prop} [Decidable c] {a b : Servo F} (ha : s.Retargeted a) (hb : s.Retargeted b) :
    s.Retargeted (if c then a else b) := by
  split
  · exact ha
  · exact hb

omit [PyFloat F] in
theorem writeTarget (s : Servo F) (v : Value F) :
    s.Retargeted { s.write Key.targetPosition v with lastTargetPositionCommand := v } :=
  ⟨rfl, rfl, fun _ ht _ _ => s.write_od_of_ne v ht⟩

theorem setTargetPosition (s : Servo F) (position previous : Value F) :
    s.Retargeted (s.setTargetPosition position previous) := by
  unfold Servo.setTargetPosition
  apply ite
  · exact writeTarget s previous
  · apply ite
    · exact ⟨rfl, rfl, fun _ ht hp hv => s.stopAtCurrentPosition_od ht hp hv⟩
    · have hwarning : s.Retargeted (if actualPositionExceedsSoftwareLimits
            { s with positionTargetRejected := false } then { s with positionTargetRejected := false }
          else { s with positionTargetRejected := false, softwareLimitWarning := false }) :=
        ite ⟨rfl, rfl, fun _ _ _ _ => rfl⟩ ⟨rfl, rfl, fun _ _ _ _ => rfl⟩
      have hreached : ∀ w : Servo F, w.Retargeted (if position.same previous then w
          else { w with targetReached := false, windowCounter := 0 }) := fun w =>
        ite (refl w) ⟨rfl, rfl, fun _ _ _ _ => rfl⟩
      exact (hwarning.trans (hreached _)).trans (writeTarget _ position)

end Retargeted

/-- The mode command as it is taken up by the next cycle. -/
def followMode (s : Servo F) : Servo F :=
  if s.od.int Key.modeOfOperation ≠ s.lastModeCommand then
    s.setMode (s.od.int Key.modeOfOperation) s.lastModeCommand
  else s

theorem followMode_idle {s : Servo F} (h : s.od.int Key.modeOfOperation = s.lastModeCommand) :
    s.followMode = s := by
  unfold followMode
  rw [if_neg (not_not.mpr h)]

theorem applyMotionCommands_eq (s : Servo F) : s.applyMotionCommands =
    if (s.od.read Key.targetPosition).same s.followMode.lastTargetPositionCommand then s.followMode
    else s.followMode.setTargetPosition (s.od.read Key.targetPosition)
      s.followMode.lastTargetPositionCommand := rfl

theorem applyMotionCommands_retargeted (s : Servo F) :
    s.followMode.Retargeted s.applyMotionCommands :=
  .ite (.refl _) (.setTargetPosition _ _ _)

theorem setMode_od (s : Servo F) (mode previous : Int) {key : Key} (ht : key ≠ Key.targetPosition)
    (hp : key ≠ Key.actualPosition) (hv : key ≠ Key.actualVelocity)
    (hm : key ≠ Key.modeOfOperation) (hd : key ≠ Key.modeOfOperationDisplay) :
    (s.setMode mode previous).od key = s.od key := by
  unfold Servo.setMode
  dsimp only
  rw [write_od_of_ne _ _ hd, write_od_of_ne _ _ hm]
  split_ifs
  · exact s.stopAtCurrentPosition_od ht hp hv
  · exact s.stopAtCurrentPosition_od ht hp hv
  · rfl

theorem applyMotionCommands_od (s : Servo F) {key : Key} (ht : key ≠ Key.targetPosition)
    (hp : key ≠ Key.actualPosition) (hv : key ≠ Key.actualVelocity)
    (hm : key ≠ Key.modeOfOperation) (hd : key ≠ Key.modeOfOperationDisplay) :
    s.applyMotionCommands.od key = s.od key := by
  rw [s.applyMotionCommands_retargeted.od key ht hp hv]
  unfold followMode
  split_ifs
  · exact s.setMode_od _ _ ht hp hv hm hd
  · rfl

theorem setMode_form (s : Servo F) {mode previous : Int} (h : mode ≠ previous) :
    ∃ active error, s.setMode mode previous =
      { (s.stopAtCurrentPosition.write Key.modeOfOperation (.int mode)).write
          Key.modeOfOperationDisplay (.int mode) with
        homingActive := active, homingError := error, lastModeCommand := mode } := by
  unfold setMode
  rw [if_pos h]
  by_cases h6 : mode = 6
  · exact ⟨s.homingActive, s.homingError, by rw [if_neg (not_not.mpr h6)]; rfl⟩
  · exact ⟨false, false, by rw [if_pos h6]; rfl⟩

theorem setMode_mode (s : Servo F) (mode previous : Int) :
    (s.setMode mode previous).od.int Key.modeOfOperation = mode := by
  unfold Servo.setMode Od.int
  dsimp only
  rw [write_od_of_ne _ _ (by decide), write_od_same]

theorem applyMotionCommands_mode (s : Servo F) :
    s.applyMotionCommands.od.int Key.modeOfOperation = s.od.int Key.modeOfOperation := by
  unfold Od.int
  rw [s.applyMotionCommands_retargeted.od _ (by decide) (by decide) (by decide)]
  unfold followMode
  split_ifs
  · exact s.setMode_mode _ s.lastModeCommand
  · rfl

theorem applyMotionCommands_lastModeCommand (s : Servo F) :
    s.applyMotionCommands.lastModeCommand = s.od.int Key.modeOfOperation := by
  rw [s.applyMotionCommands_retargeted.lastModeCommand]
  unfold followMode
  split_ifs with h
  · rfl
  · exact (not_not.mp h).symm

/-- A change to another mode than homing ends the homing run. -/
theorem setMode_homingActive (s : Servo F) (mode previous : Int) :
    (s.setMode mode previous).homingActive =
      (s.homingActive && decide (mode = previous ∨ mode = 6)) := by
  change (if mode ≠ previous then (if mode ≠ 6 then
    { s.stopAtCurrentPosition with homingActive := false, homingError := false }
    else s.stopAtCurrentPosition) else s).homingActive = _
  split_ifs with hm h6
  · simp [hm, h6]
  · have hstop : s.stopAtCurrentPosition.homingActive = s.homingActive := rfl
    simp [hstop, not_not.mp h6]
  · simp [not_not.mp hm]

theorem applyMotionCommands_homingActive (s : Servo F) : s.applyMotionCommands.homingActive =
    (s.homingActive && decide (s.od.int Key.modeOfOperation = s.lastModeCommand ∨
      s.od.int Key.modeOfOperation = 6)) := by
  rw [s.applyMotionCommands_retargeted.homingActive]
  unfold followMode
  split_ifs with hm
  · exact s.setMode_homingActive _ _
  · simp [not_not.mp hm]

omit [PyFloat F] in
theorem applyParameterSave_od (s : Servo F) {key : Key} (hs : key ≠ Key.parameterSaveStatus)
    (hc : key ≠ Key.parameterSaveReturnCode) (hv : key ≠ Key.parameterSaveReturnValue) :
    s.applyParameterSave.od key = s.od key := by
  unfold applyParameterSave
  dsimp only
  split_ifs
  · exact s.od.writeAll_of_ne (by simp [hs, hc, hv])
  · rfl

/-! The commands as a whole, with and without a pending device reset. -/

omit [PyFloat F] in
theorem applyParameterSave_int (s : Servo F) {key : Key} (hs : key ≠ Key.parameterSaveStatus)
    (hc : key ≠ Key.parameterSaveReturnCode) (hv : key ≠ Key.parameterSaveReturnValue) :
    s.applyParameterSave.od.int key = s.od.int key := by
  unfold Od.int
  rw [s.applyParameterSave_od hs hc hv]

/-- What the commands other than the motion commands leave of a servo that is not reset. -/
theorem applyParameterSave_unreset (h : s.deviceResetRequested = false) : ∃ od reset save,
    s.applyDeviceReset.applyParameterSave =
      { s with od, lastDeviceResetCommand := reset, lastParameterSaveCommand := save } ∧
    ∀ key, key ≠ Key.parameterSaveStatus → key ≠ Key.parameterSaveReturnCode →
      key ≠ Key.parameterSaveReturnValue → od key = s.od key := by
  have hplain : s.applyDeviceReset =
      { s with lastDeviceResetCommand := s.od.int Key.deviceResetCommand } := by
    unfold applyDeviceReset
    rw [if_neg (by simp [h])]
  have hod : ∀ key, key ≠ Key.parameterSaveStatus → key ≠ Key.parameterSaveReturnCode →
      key ≠ Key.parameterSaveReturnValue → s.applyDeviceReset.applyParameterSave.od key = s.od key := by
    intro key hs hc hv
    rw [applyParameterSave_od _ hs hc hv, hplain]
  refine ⟨s.applyDeviceReset.applyParameterSave.od, s.od.int Key.deviceResetCommand,
    s.applyDeviceReset.od.int Key.parameterSaveCommand, ?_, hod⟩
  rw [hplain]
  unfold applyParameterSave
  dsimp only
  split_ifs <;> rfl

theorem applyOdCommands_controlword (s : Servo F) :
    s.applyOdCommands.controlword = if s.deviceResetRequested then 0 else s.controlword := by
  have hrest : s.applyOdCommands.controlword = s.applyDeviceReset.controlword := by
    unfold applyOdCommands Servo.controlword Od.int
    rw [applyMotionCommands_od _ (by decide) (by decide) (by decide) (by decide) (by decide),
      applyParameterSave_od _ (by decide) (by decide) (by decide)]
  rw [hrest]
  unfold applyDeviceReset
  dsimp only
  split_ifs
  · rfl
  · rfl

theorem applyOdCommands_mode (s : Servo F) : s.applyOdCommands.od.int Key.modeOfOperation =
    if s.deviceResetRequested then 8 else s.od.int Key.modeOfOperation := by
  unfold applyOdCommands
  rw [applyMotionCommands_mode,
    applyParameterSave_int _ (by decide) (by decide) (by decide)]
  unfold applyDeviceReset
  dsimp only
  split_ifs
  · rfl
  · rfl

theorem applyOdCommands_lastModeCommand (s : Servo F) :
    s.applyOdCommands.lastModeCommand = s.applyOdCommands.od.int Key.modeOfOperation := by
  unfold applyOdCommands
  rw [applyMotionCommands_lastModeCommand, applyMotionCommands_mode]

theorem applyOdCommands_homingActive (s : Servo F) : s.applyOdCommands.homingActive =
    (s.homingActive && decide (s.deviceResetRequested = true ∨
      s.od.int Key.modeOfOperation = s.lastModeCommand ∨ s.od.int Key.modeOfOperation = 6)) := by
  have hsave : ∀ t : Servo F, t.applyParameterSave.homingActive = t.homingActive ∧
      t.applyParameterSave.lastModeCommand = t.lastModeCommand := by
    intro t
    unfold applyParameterSave
    dsimp only
    split_ifs
    · exact ⟨rfl, rfl⟩
    · exact ⟨rfl, rfl⟩
  unfold applyOdCommands
  rw [applyMotionCommands_homingActive, (hsave _).1, (hsave _).2,
    applyParameterSave_int _ (by decide) (by decide) (by decide)]
  unfold applyDeviceReset
  dsimp only
  split_ifs with hreset
  · have hmode : s.applyDeviceResetResponse.od.int Key.modeOfOperation =
        s.applyDeviceResetResponse.lastModeCommand := rfl
    have hactive : s.applyDeviceResetResponse.homingActive = s.homingActive := rfl
    simp [hreset, hmode, hactive]
  · simp [hreset]

/-! What no command touches. -/

/-- The fields that only the motion laws write. -/
def lawful (s : Servo F) : Bool × F × Int := (s.ppSetpointAck, s.kp, s.homingCounter)

theorem setMode_lawful (s : Servo F) (mode previous : Int) :
    (s.setMode mode previous).lawful = s.lawful := by
  unfold setMode
  dsimp only
  split_ifs <;> rfl

theorem setTargetPosition_lawful (s : Servo F) (position previous : Value F) :
    (s.setTargetPosition position previous).lawful = s.lawful := by
  unfold setTargetPosition
  dsimp only
  split_ifs <;> rfl

theorem applyMotionCommands_lawful (s : Servo F) : s.applyMotionCommands.lawful = s.lawful := by
  have hmode : s.followMode.lawful = s.lawful := by
    unfold followMode
    split_ifs
    · exact setMode_lawful ..
    · rfl
  rw [applyMotionCommands_eq]
  split
  · exact hmode
  · rw [setTargetPosition_lawful, hmode]

theorem applyOdCommands_lawful (s : Servo F) : s.applyOdCommands.lawful = s.lawful := by
  have hreset : s.applyDeviceReset.lawful = s.lawful := by
    unfold applyDeviceReset
    dsimp only
    split_ifs <;> rfl
  have hsave : s.applyDeviceReset.applyParameterSave.lawful = s.applyDeviceReset.lawful := by
    unfold applyParameterSave
    dsimp only
    split_ifs <;> rfl
  unfold applyOdCommands
  rw [applyMotionCommands_lawful, hsave, hreset]

/-! What becomes of a new target. -/

theorem within_congr (h : ∀ key, key = Key.softwarePositionLimitNegative ∨
      key = Key.softwarePositionLimitPositive → s'.od key = s.od key) (position : F) :
    s'.positionTargetIsWithinSoftwareLimits position = s.positionTargetIsWithinSoftwareLimits position := by
  unfold positionTargetIsWithinSoftwareLimits softwarePositionLimits Od.real
  rw [h _ (.inl rfl), h _ (.inr rfl)]

inductive TakesTarget (s : Servo F) (position previous : Value F) : Servo F → Prop
  | restores (unreferenced : s.positionCommandRequiresReference = true ∧ s.homingReferenced = false) :
    TakesTarget s position previous
      { s.write Key.targetPosition previous with lastTargetPositionCommand := previous }
  | rejects (outside : s.positionTargetIsWithinSoftwareLimits position.toFloat = false) :
    TakesTarget s position previous { s.stopAtCurrentPosition with
      softwareLimitWarning := true, positionTargetRejected := true, targetReached := false }
  | accepts (within : s.positionTargetIsWithinSoftwareLimits position.toFloat = true)
    (warning reached : Bool) (counter : Int) :
    TakesTarget s position previous { s.write Key.targetPosition position with
      lastTargetPositionCommand := position, positionTargetRejected := false
      softwareLimitWarning := warning, targetReached := reached, windowCounter := counter }

theorem setTargetPosition_takes (s : Servo F) (position previous : Value F) :
    s.TakesTarget position previous (s.setTargetPosition position previous) := by
  unfold setTargetPosition
  dsimp only
  split_ifs with hunreferenced houtside
  · exact .restores (by simpa using hunreferenced)
  · exact .rejects (by simpa using houtside)
  all_goals
    have hwithin : s.positionTargetIsWithinSoftwareLimits position.toFloat = true := by
      simpa using houtside
    exact .accepts hwithin _ _ _

end Servo

end EthercatSimulator.Behaviour
