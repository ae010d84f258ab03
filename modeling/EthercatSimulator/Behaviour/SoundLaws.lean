import EthercatSimulator.Behaviour.StatusLaws
import EthercatSimulator.Profile.Sound

/-! An update keeps the dictionary sound, whether it raises or not. -/

namespace EthercatSimulator.Behaviour

open Base Profile Diagnostics PyFloat

namespace Servo

variable {F : Type} [PyFloat F] {s s' : Servo F}

theorem isMotion_of_not {key : Key} (h : ¬ key.isMotion) : key ≠ Key.targetPosition ∧
    key ≠ Key.actualPosition ∧ key ≠ Key.actualVelocity := by
  simpa [Key.isMotion, not_or] using h

theorem Driven.sound (h : s.Driven s') (hs : s.od.Sound) : s'.od.Sound := by
  intro key d hd hmotion
  obtain ⟨ht, hp, hv⟩ := isMotion_of_not hmotion
  rw [h.od key ht hp hv]
  exact hs key d hd hmotion

theorem Retargeted.sound (h : s.Retargeted s') (hs : s.od.Sound) : s'.od.Sound := by
  intro key d hd hmotion
  obtain ⟨ht, hp, hv⟩ := isMotion_of_not hmotion
  rw [h.od key ht hp hv]
  exact hs key d hd hmotion

/-- A write of an integer in the range of its object. -/
theorem write_sound (hs : s.od.Sound) {key : Key} {n : Int}
    (hn : ∀ d, definition key = some d →
      d.dataType ≠ .float32 ∧ d.dataType.low ≤ n ∧ n ≤ d.dataType.high) :
    (s.write key (.int n)).od.Sound :=
  hs.write _ _ fun d hd _ => fits_int (hn d hd).1 (hn d hd).2.1 (hn d hd).2.2

theorem stopAtCurrentPosition_sound (hs : s.od.Sound) : s.stopAtCurrentPosition.od.Sound :=
  ((hs.writeMotion _ (.inl rfl) _).writeMotion _ (.inr (.inl rfl)) _).writeMotion _ (.inr (.inr rfl)) _

theorem followMode_sound (hs : s.od.Sound) : s.followMode.od.Sound := by
  obtain ⟨-, hlow, hhigh⟩ :=
    hs.int_range Key.modeOfOperation rfl (by simp [Key.isMotion]) (by decide)
  unfold followMode
  split_ifs with hmode
  · have hstopped : (if s.od.int Key.modeOfOperation ≠ s.lastModeCommand then
        (if s.od.int Key.modeOfOperation ≠ 6 then
          { s.stopAtCurrentPosition with homingActive := false, homingError := false }
        else s.stopAtCurrentPosition) else s).od.Sound := by
      split_ifs
      · exact stopAtCurrentPosition_sound hs
      · exact stopAtCurrentPosition_sound hs
    have hrange : ∀ d : Definition, d.dataType = .int8 →
        d.dataType ≠ .float32 ∧ d.dataType.low ≤ s.od.int Key.modeOfOperation ∧
          s.od.int Key.modeOfOperation ≤ d.dataType.high := by
      intro d hd
      rw [hd]
      exact ⟨by decide, hlow, hhigh⟩
    refine write_sound (write_sound hstopped fun d hd => hrange d ?_) fun d hd => hrange d ?_
    · cases hd; rfl
    · cases hd; rfl
  · exact hs

theorem applyMotionCommands_sound (hs : s.od.Sound) : s.applyMotionCommands.od.Sound :=
  s.applyMotionCommands_retargeted.sound (followMode_sound hs)

theorem applyDeviceReset_sound (hs : s.od.Sound) : s.applyDeviceReset.od.Sound := by
  unfold applyDeviceReset
  dsimp only
  split_ifs
  · have hreset := (hs.resetNonPdoConfiguration s.axisMode).resetPdoValues
    have hmotion := (hreset.writeMotion Key.targetPosition (.inl rfl)
      (s.od.read Key.actualPosition)).writeMotion Key.actualPosition (.inr (.inl rfl))
      (s.od.read Key.actualPosition)
    have hstatus := hmotion.write Key.statusword (.int 0x0027) fun d hd _ => by
      cases hd
      exact fits_int (by decide) (by decide) (by decide)
    -- A reset drive is in its default mode.
    refine hstatus.write Key.modeOfOperationDisplay (.int 8) fun d hd _ => ?_
    cases hd
    exact fits_int (by decide) (by decide) (by decide)
  · exact hs

theorem applyParameterSave_sound (hs : s.od.Sound) : s.applyParameterSave.od.Sound := by
  unfold applyParameterSave
  dsimp only
  split_ifs
  · apply hs.writeAll
    intro kv hkv d hd _
    simp only [List.mem_cons, List.not_mem_nil, or_false] at hkv
    rcases hkv with rfl | rfl | rfl <;> cases hd <;> exact fits_int (by decide) (by decide) (by decide)
  · exact hs

theorem started_sound (hs : s.od.Sound) : s.started.od.Sound := by
  have hcommands : s.applyOdCommands.od.Sound :=
    applyMotionCommands_sound (applyParameterSave_sound (applyDeviceReset_sound hs))
  unfold started processStateMachine
  dsimp only
  split_ifs
  · exact stopAtCurrentPosition_sound hcommands
  · exact hcommands

theorem modelUpdate_sound (hs : s.od.Sound) : (modelUpdate s).2.od.Sound := by
  obtain ⟨q, hdriven, hok, herr⟩ := s.modelUpdate_post
  have hq := hdriven.sound (started_sound hs)
  cases hr : (modelUpdate s).1 with
  | error e =>
    rw [herr e hr]
    exact hq
  | ok _ =>
    rw [hok hr]
    have hlt := q.publishedStatusword_lt (s.started.od.int Key.modeOfOperation)
    refine write_sound hq fun d hd => ?_
    cases hd
    exact ⟨by decide, by simp [DataType.low, DataType.signed], by
      simp [DataType.high, DataType.signed, DataType.size]; omega⟩

end Servo

end EthercatSimulator.Behaviour
