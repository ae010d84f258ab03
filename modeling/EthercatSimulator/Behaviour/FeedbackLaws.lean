import EthercatSimulator.Behaviour.SoundLaws

/-! The motion values of the dictionary have a wire form as long as the feedback has one. -/

namespace EthercatSimulator.Behaviour

open Base Profile Diagnostics PyFloat

namespace Servo

variable {F : Type} [PyFloat F] {s s' : Servo F}

structure Wired (s : Servo F) : Prop where
  position : Encodable .int32 (.float s.actualPosition : Value F)
  command : Encodable .int32 s.lastTargetPositionCommand
  target : Encodable .int32 (s.od Key.targetPosition)
  shownPosition : Encodable .int32 (s.od Key.actualPosition)
  shownVelocity : Encodable .int32 (s.od Key.actualVelocity)

theorem encodable_zero : Encodable .int32 (.float 0 : Value F) := by
  refine ⟨leBytesInt 4 0, ?_⟩
  rw [encodeOdValue_int (by decide)]
  change floatToInt (0 : F) >>= packInt .int32 = _
  unfold floatToInt
  rw [PyFloat.toInt_zero]
  rfl

theorem encodable_int (n : Int) (hlow : DataType.low .int32 ≤ n) (hhigh : n ≤ DataType.high .int32) :
    Encodable .int32 (.int n : Value F) := (fits_int (by decide) hlow hhigh).encodable

theorem construct_wired (mode : AxisMode) : (construct mode : Servo F).Wired := by
  have hfits : (Od.configured mode : Od F).FitsBut fun _ => False := configured_fits mode
  exact ⟨encodable_zero, (hfits Key.targetPosition _ rfl id).encodable,
    (hfits Key.targetPosition _ rfl id).encodable, (hfits Key.actualPosition _ rfl id).encodable,
    (hfits Key.actualVelocity _ rfl id).encodable⟩

namespace Wired

/-- A write to an object, with a value that has a wire form where the object shows motion. -/
theorem write (h : s.Wired) {key : Key} {v : Value F} (hv : key.isMotion → Encodable .int32 v) :
    (s.write key v).Wired := by
  have hone {shown : Key} (hmotion : shown.isMotion) (hshown : Encodable .int32 (s.od shown)) :
      Encodable .int32 ((s.write key v).od shown) := by
    by_cases hkey : shown = key
    · subst hkey
      rw [write_od_same]
      exact hv hmotion
    · rw [write_od_of_ne _ _ hkey]
      exact hshown
  exact ⟨h.position, h.command, hone (.inl rfl) h.target, hone (.inr (.inl rfl)) h.shownPosition,
    hone (.inr (.inr rfl)) h.shownVelocity⟩

theorem writeOther (h : s.Wired) {key : Key} (hkey : ¬ key.isMotion) (v : Value F) : (s.write key v).Wired :=
  h.write fun hmotion => absurd hmotion hkey

theorem writeTarget (h : s.Wired) {v : Value F} (hv : Encodable .int32 v) :
    Wired { s.write Key.targetPosition v with lastTargetPositionCommand := v } :=
  have hwritten : (s.write Key.targetPosition v).Wired := h.write fun _ => hv
  ⟨hwritten.position, hv, hwritten.target, hwritten.shownPosition, hwritten.shownVelocity⟩

theorem stopAtCurrentPosition (h : s.Wired) : s.stopAtCurrentPosition.Wired :=
  ⟨h.position, h.position, h.position, h.position, encodable_zero⟩

/-- Another dictionary with the same motion values. -/
theorem congr (h : s.Wired) (hod : ∀ key : Key, key.isMotion → s'.od key = s.od key)
    (hposition : s'.actualPosition = s.actualPosition)
    (hcommand : s'.lastTargetPositionCommand = s.lastTargetPositionCommand) : s'.Wired where
  position := hposition ▸ h.position
  command := hcommand ▸ h.command
  target := hod _ (.inl rfl) ▸ h.target
  shownPosition := hod _ (.inr (.inl rfl)) ▸ h.shownPosition
  shownVelocity := hod _ (.inr (.inr rfl)) ▸ h.shownVelocity

/-! Commands. -/

theorem setMode (h : s.Wired) (mode previous : Int) : (s.setMode mode previous).Wired := by
  have hstopped := h.stopAtCurrentPosition
  have hstop : Wired (if mode ≠ previous then
      (if mode ≠ 6 then { s.stopAtCurrentPosition with homingActive := false, homingError := false }
        else s.stopAtCurrentPosition) else s) := by
    split_ifs
    · exact hstopped.congr (fun _ _ => rfl) rfl rfl
    · exact hstopped
    · exact h
  have hmode : ¬ Key.modeOfOperation.isMotion := by simp [Key.isMotion]
  have hdisplay : ¬ Key.modeOfOperationDisplay.isMotion := by simp [Key.isMotion]
  exact ((hstop.writeOther hmode (.int mode)).writeOther hdisplay (.int mode)).congr (fun _ _ => rfl) rfl rfl

theorem setTargetPosition (h : s.Wired) {position previous : Value F} (hposition : Encodable .int32 position)
    (hprevious : Encodable .int32 previous) : (s.setTargetPosition position previous).Wired := by
  have htakes := s.setTargetPosition_takes position previous
  generalize s.setTargetPosition position previous = t at htakes
  cases htakes with
  | restores _ => exact h.writeTarget hprevious
  | rejects _ => exact h.stopAtCurrentPosition.congr (fun _ _ => rfl) rfl rfl
  | accepts _ warning reached counter => exact (h.writeTarget hposition).congr (fun _ _ => rfl) rfl rfl

theorem applyDeviceReset (h : s.Wired) : s.applyDeviceReset.Wired := by
  have hfits (key : Key) {d : Definition} (hd : definition key = some d) (hpdo : d.pdo = true) :
      Encodable d.dataType ((s.od.resetNonPdoConfiguration s.axisMode).resetPdoValues key) := by
    obtain ⟨ht, hlow, hhigh⟩ := defaults_suit _ (mem_definitions hd) hpdo
    unfold Od.resetPdoValues
    rw [hd]
    dsimp only
    rw [if_pos hpdo]
    exact (fits_int ht hlow hhigh).encodable
  unfold Servo.applyDeviceReset
  dsimp only
  split_ifs
  · exact ⟨h.position, h.shownPosition, h.shownPosition, h.shownPosition, hfits Key.actualVelocity rfl rfl⟩
  · exact h.congr (fun _ _ => rfl) rfl rfl

theorem applyParameterSave (h : s.Wired) : s.applyParameterSave.Wired := by
  unfold Servo.applyParameterSave
  dsimp only
  split_ifs
  · refine h.congr (fun key hmotion => ?_) rfl rfl
    have hne : ∀ shown ∈ [Key.targetPosition, Key.actualPosition, Key.actualVelocity],
        shown ∉ [Key.parameterSaveStatus, Key.parameterSaveReturnCode, Key.parameterSaveReturnValue] := by decide
    refine Od.writeAll_of_ne _ fun kv hkv hsame => hne key (by simpa [Key.isMotion] using hmotion) ?_
    exact hsame ▸ List.mem_map_of_mem (f := Prod.fst) hkv
  · exact h.congr (fun _ _ => rfl) rfl rfl

theorem applyMotionCommands (h : s.Wired) : s.applyMotionCommands.Wired := by
  have hfollowed : s.followMode.Wired := by
    unfold followMode
    split_ifs
    · exact h.setMode _ _
    · exact h
  rw [applyMotionCommands_eq]
  split
  · exact hfollowed
  · exact hfollowed.setTargetPosition h.target hfollowed.command

theorem processStateMachine (h : s.Wired) : s.processStateMachine.Wired := by
  have hmachine : Wired { s with
      haltActive := hasBits s.controlword 0x100, sm := s.sm.process s.controlword } :=
    h.congr (fun _ _ => rfl) rfl rfl
  unfold Servo.processStateMachine
  dsimp only
  split_ifs
  · exact hmachine.stopAtCurrentPosition
  · exact hmachine

theorem started (h : s.Wired) : s.started.Wired :=
  h.applyDeviceReset.applyParameterSave.applyMotionCommands.processStateMachine

end Wired

/-! The motion laws. -/

/-- The dictionary shows the position the servo has, or neither has changed. -/
structure Shows (s s' : Servo F) : Prop where
  position : s'.od Key.actualPosition = .float s'.actualPosition ∨
    s'.od Key.actualPosition = s.od Key.actualPosition ∧ s'.actualPosition = s.actualPosition
  target : s'.od Key.targetPosition = s.od Key.targetPosition ∨ s'.od Key.targetPosition = .float 0
  command : s'.lastTargetPositionCommand = s.lastTargetPositionCommand

instance : Std.Refl (Shows (F := F)) := ⟨fun _ => ⟨.inr ⟨rfl, rfl⟩, .inl rfl, rfl⟩⟩

instance : IsTrans (Servo F) Shows where
  trans _ _ _ h h' := by
    refine ⟨?_, ?_, h'.command.trans h.command⟩
    · rcases h'.position with hshown | ⟨hod, hposition⟩
      · exact .inl hshown
      · rw [hod, hposition]
        exact h.position
    · rcases h'.target with hsame | hzero
      · rw [hsame]
        exact h.target
      · exact .inr hzero

theorem shows_parts : MotionParts (Shows (F := F)) where
  drive _ _ _ := ⟨.inl rfl, .inl rfl, rfl⟩
  count _ _ _ := ⟨.inr ⟨rfl, rfl⟩, .inl rfl, rfl⟩

theorem shows_pp : PpParts (Shows (F := F)) where
  follow _ _ _ _ := ⟨.inr ⟨rfl, rfl⟩, .inl rfl, rfl⟩

theorem shows_homing : HomingParts (Shows (F := F)) where
  home _ _ _ _ _ := ⟨.inr ⟨rfl, rfl⟩, .inl rfl, rfl⟩
  target _ := ⟨.inr ⟨rfl, rfl⟩, .inr rfl, rfl⟩

theorem update_shows (s : Servo F) : s.started.Shows (modelUpdate s).2 := by
  refine modelUpdate_law s (P := s.started.Shows) (fun q _ _ hq => ?_) ?_
  · exact ⟨hq.position, hq.target, hq.command⟩
  · exact shows_parts.processMode (fun _ => shows_pp) (fun _ => shows_homing) s.started

/-- An update whose feedback has a wire form leaves every motion value with one. -/
theorem update_wired (h : s.Wired)
    (hposition : Encodable .int32 ((modelUpdate s).2.od Key.actualPosition))
    (hvelocity : Encodable .int32 ((modelUpdate s).2.od Key.actualVelocity)) : (modelUpdate s).2.Wired := by
  have hstarted := h.started
  have hshows := s.update_shows
  refine ⟨?_, hshows.command ▸ hstarted.command, ?_, hposition, hvelocity⟩
  · rcases hshows.position with hshown | ⟨_, hkept⟩
    · exact hshown ▸ hposition
    · exact hkept ▸ hstarted.position
  · rcases hshows.target with hkept | hzero
    · exact hkept ▸ hstarted.target
    · exact hzero ▸ encodable_zero

/-- A drive that is not enabled shows what it has. -/
theorem update_wired_disabled (h : s.Wired) (hd : s.started.enabled = false) : (modelUpdate s).2.Wired := by
  have hstatus : ¬ Key.statusword.isMotion := by simp [Key.isMotion]
  rw [modelUpdate_disabled s hd]
  exact (h.started.writeOther hstatus _).congr (fun _ _ => rfl) rfl rfl

end Servo

end EthercatSimulator.Behaviour
