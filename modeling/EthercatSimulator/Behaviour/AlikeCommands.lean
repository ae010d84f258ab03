import EthercatSimulator.Behaviour.Acknowledge
import EthercatSimulator.Behaviour.Alike

/-! The commands of an update take up a target or reject it, and a rejected target stops the
drive. -/

namespace EthercatSimulator.Behaviour

open Base Profile Diagnostics PyFloat

namespace Servo

variable {F : Type} {s t u : Servo F}

variable [PyFloat F]

/-- A target that is taken up, restored or rejected. -/
theorem TakesTarget.near {position previous : Value F} (h : s.TakesTarget position previous t) :
    s.Near t := by
  have hod : ∀ v : Value F, ∀ key, ¬ key.isShown → (s.od.write Key.targetPosition v) key = s.od key := by
    rintro v key hkey
    refine s.od.write_of_ne v ?_
    rintro rfl
    exact hkey (by decide)
  cases h with
  | restores => exact ⟨rfl, rfl, rfl, hod previous⟩
  | rejects =>
    refine ⟨rfl, rfl, rfl, fun key hkey => ?_⟩
    refine s.stopAtCurrentPosition_od ?_ ?_ ?_ <;> rintro rfl <;> exact hkey (by decide)
  | accepts => exact ⟨rfl, rfl, rfl, hod position⟩

namespace Alike

omit [PyFloat F] in
theorem deviceResetRequested (h : s.Alike t) : t.deviceResetRequested = s.deviceResetRequested := by
  have hlast : t.lastDeviceResetCommand = s.lastDeviceResetCommand :=
    congrArg Setting.lastDeviceResetCommand h.setting
  unfold Servo.deviceResetRequested
  rw [h.int Key.deviceResetCommand (by decide), hlast]

theorem applyDeviceReset (h : s.Alike t) : s.applyDeviceReset.Alike t.applyDeviceReset := by
  have hcommand : t.od.int Key.deviceResetCommand = s.od.int Key.deviceResetCommand := h.int _ (by decide)
  have hresponse : s.applyDeviceResetResponse.Alike t.applyDeviceResetResponse := by
    have hmode : t.axisMode = s.axisMode := congrArg Setting.axisMode h.setting
    have hreset : Near
        { s with od := (s.od.resetNonPdoConfiguration s.axisMode).resetPdoValues, lastModeCommand := 8 }
        { t with od := (t.od.resetNonPdoConfiguration t.axisMode).resetPdoValues, lastModeCommand := 8 } := by
      refine ⟨congrArg (fun x => { x with lastModeCommand := 8 }) h.setting, h.homing,
        h.actualPosition, fun key hkey => ?_⟩
      have hnonPdo : t.od.resetNonPdoConfiguration t.axisMode key =
          s.od.resetNonPdoConfiguration s.axisMode key := by
        rw [hmode]
        exact Od.writeAll_congr (h.od key hkey) _
      dsimp only
      unfold Od.resetPdoValues
      rw [hnonPdo]
    have hwritten := (((hreset.write_shown Key.targetPosition (by decide)
      (s.od.read Key.actualPosition) (t.od.read Key.actualPosition)).write_shown Key.actualPosition
      (by decide) (s.od.read Key.actualPosition) (t.od.read Key.actualPosition)).write_shown
      Key.statusword (by decide) (.int 0x0027) (.int 0x0027)).write Key.modeOfOperationDisplay
      (v := .int 8) (w := .int 8) fun _ => rfl
    exact ⟨⟨hwritten.setting, h.homing, h.actualPosition, hwritten.od⟩, h.actualVelocity, h.ppActive,
      h.ppTargetPosition⟩
  have happlied := ite (c := s.deviceResetRequested = true) (d := t.deviceResetRequested = true)
    (by rw [h.deviceResetRequested]) hresponse h
  unfold Servo.applyDeviceReset
  refine ⟨⟨?_, happlied.homing, happlied.actualPosition, happlied.od⟩, happlied.actualVelocity,
    happlied.ppActive, happlied.ppTargetPosition⟩
  dsimp only
  rw [hcommand]
  exact congrArg (fun x => { x with lastDeviceResetCommand := s.od.int Key.deviceResetCommand })
    happlied.setting

omit [PyFloat F] in
theorem applyParameterSave (h : s.Alike t) : s.applyParameterSave.Alike t.applyParameterSave := by
  have hcommand : t.od.int Key.parameterSaveCommand = s.od.int Key.parameterSaveCommand :=
    h.int _ (by decide)
  have hlast : t.lastParameterSaveCommand = s.lastParameterSaveCommand :=
    congrArg Setting.lastParameterSaveCommand h.setting
  have hsaved : ∀ values : List (Key × Value F),
      Alike { s with od := s.od.writeAll values } { t with od := t.od.writeAll values } := fun values =>
    ⟨⟨h.setting, h.homing, h.actualPosition, fun key hkey => Od.writeAll_congr (h.od key hkey) values⟩,
      h.actualVelocity, h.ppActive, h.ppTargetPosition⟩
  have happlied := ite (c := s.parameterSaveRequested = true) (d := t.parameterSaveRequested = true)
    (by unfold parameterSaveRequested; rw [hcommand, hlast])
    (hsaved [(Key.parameterSaveStatus, .int 0), (Key.parameterSaveReturnCode, .int 0),
      (Key.parameterSaveReturnValue, .int 1)]) h
  unfold Servo.applyParameterSave
  refine ⟨⟨?_, happlied.homing, happlied.actualPosition, happlied.od⟩, happlied.actualVelocity,
    happlied.ppActive, happlied.ppTargetPosition⟩
  dsimp only
  rw [hcommand]
  exact congrArg (fun x => { x with lastParameterSaveCommand := s.od.int Key.parameterSaveCommand })
    happlied.setting

theorem setMode (h : s.Alike t) (mode previous : Int) :
    (s.setMode mode previous).Alike (t.setMode mode previous) := by
  have hstopped := h.toNear.stopAtCurrentPosition
  have hcleared : Alike { s.stopAtCurrentPosition with homingActive := false, homingError := false }
      { t.stopAtCurrentPosition with homingActive := false, homingError := false } :=
    ⟨⟨hstopped.setting, congrArg (fun x => (false, x.2.1, x.2.2.1, false)) hstopped.homing,
      hstopped.actualPosition, hstopped.od⟩, rfl, rfl, nofun⟩
  have hfollowed := ite (c := mode ≠ previous) Iff.rfl (ite (c := mode ≠ 6) Iff.rfl hcleared hstopped) h
  have hwritten := (hfollowed.toNear.write Key.modeOfOperation (v := .int mode) (w := .int mode)
    fun _ => rfl).write Key.modeOfOperationDisplay (v := .int mode) (w := .int mode) fun _ => rfl
  exact ⟨⟨congrArg (fun x => { x with lastModeCommand := mode }) hwritten.setting, hwritten.homing,
    hwritten.actualPosition, hwritten.od⟩, hfollowed.actualVelocity, hfollowed.ppActive,
    hfollowed.ppTargetPosition⟩

theorem followMode (h : s.Alike t) : s.followMode.Alike t.followMode := by
  unfold Servo.followMode
  rw [h.mode, h.lastModeCommand]
  exact ite Iff.rfl (h.setMode _ _) h

end Alike

theorem applyMotionCommands_near (s : Servo F) : s.followMode.Near s.applyMotionCommands := by
  rw [applyMotionCommands_eq]
  cases (s.od.read Key.targetPosition).same s.followMode.lastTargetPositionCommand with
  | true => exact .refl _
  | false => exact (s.followMode.setTargetPosition_takes _ _).near

theorem Alike.applyOdCommands (h : s.Alike t) : s.applyOdCommands.Near t.applyOdCommands :=
  (applyMotionCommands_near _).symm.trans
    (h.applyDeviceReset.applyParameterSave.followMode.toNear.trans (applyMotionCommands_near _))

/-- The state machine takes the same step, and a drive that it takes out of operation stops. -/
theorem Near.processStateMachine (h : s.Near t) :
    s.processStateMachine.Near t.processStateMachine ∧
      (s.enabled = true → s.processStateMachine.enabled = false →
        s.processStateMachine.Alike t.processStateMachine) := by
  have hstepped : Near
      { s with haltActive := hasBits s.controlword 0x100, sm := s.sm.process s.controlword }
      { t with haltActive := hasBits t.controlword 0x100, sm := t.sm.process t.controlword } := by
    refine ⟨?_, h.homing, h.actualPosition, h.od⟩
    rw [h.controlword, h.sm]
    exact congrArg (fun x => { x with
      haltActive := hasBits s.controlword 0x100, sm := s.sm.process s.controlword }) h.setting
  unfold Servo.processStateMachine
  dsimp only
  rw [h.enabled, hstepped.enabled]
  split
  · have hstopped := hstepped.stopAtCurrentPosition
    exact ⟨hstopped.toNear, fun _ _ => hstopped⟩
  · rename_i hkept
    refine ⟨hstepped, fun he hd => absurd ?_ hkept⟩
    rw [he, Bool.true_and, Bool.not_eq_true']
    exact hd

/-- The next update stops the drive because of the target position. -/
def RejectsTarget (s : Servo F) : Prop :=
  (s.od.read Key.targetPosition).same s.lastTargetPositionCommand = false ∧
    (s.positionCommandRequiresReference = true → s.homingReferenced = true) ∧
    s.positionTargetIsWithinSoftwareLimits (s.od.real Key.targetPosition) = false

instance (s : Servo F) : Decidable s.RejectsTarget := inferInstanceAs (Decidable (_ ∧ _))

/-- A target that is no news leaves the motion alone, and so does one that is not rejected. -/
theorem applyMotionCommands_motion (hmode : s.od.int Key.modeOfOperation = s.lastModeCommand) :
    (s.RejectsTarget → s.applyMotionCommands.actualVelocity = 0 ∧
        s.applyMotionCommands.ppActive = false) ∧
      (¬ s.RejectsTarget → s.applyMotionCommands.actualVelocity = s.actualVelocity ∧
        s.applyMotionCommands.ppActive = s.ppActive ∧
        s.applyMotionCommands.ppTargetPosition = s.ppTargetPosition) := by
  rw [applyMotionCommands_eq, followMode_idle hmode]
  cases hsame : (s.od.read Key.targetPosition).same s.lastTargetPositionCommand with
  | true => exact ⟨fun h => absurd (hsame.symm.trans h.1) nofun, fun _ => ⟨rfl, rfl, rfl⟩⟩
  | false =>
    rw [if_neg (by simp)]
    unfold setTargetPosition
    by_cases hreference : s.positionCommandRequiresReference = true ∧ s.homingReferenced = false
    · rw [if_pos (by simp [hreference])]
      refine ⟨fun h => ?_, fun _ => ⟨rfl, rfl, rfl⟩⟩
      rw [h.2.1 hreference.1] at hreference
      exact absurd hreference.2 nofun
    · rw [if_neg (by simpa using hreference)]
      cases hwithin : s.positionTargetIsWithinSoftwareLimits (s.od.read Key.targetPosition).toFloat with
      | false =>
        have hreject : s.RejectsTarget := by
          refine ⟨hsame, fun h => ?_, hwithin⟩
          simpa using fun hr => hreference ⟨h, hr⟩
        rw [if_pos (by simp)]
        exact ⟨fun _ => ⟨rfl, rfl⟩, fun h => absurd hreject h⟩
      | true =>
        rw [if_neg (by simp)]
        refine ⟨fun h => absurd (hwithin.symm.trans h.2.2) nofun, fun _ => ?_⟩
        dsimp only
        split_ifs <;> exact ⟨rfl, rfl, rfl⟩

/-- A rejected target stops the drive, and nothing else does while it keeps its mode. -/
theorem applyOdCommands_motion (hreset : s.deviceResetRequested = false)
    (hmode : s.od.int Key.modeOfOperation = s.lastModeCommand) :
    (s.RejectsTarget → s.applyOdCommands.actualVelocity = 0 ∧ s.applyOdCommands.ppActive = false) ∧
      (¬ s.RejectsTarget → s.applyOdCommands.actualVelocity = s.actualVelocity ∧
        s.applyOdCommands.ppActive = s.ppActive ∧
        s.applyOdCommands.ppTargetPosition = s.ppTargetPosition) := by
  obtain ⟨od, last, last', hbefore, hod⟩ := applyParameterSave_unreset hreset
  have hint : ∀ {key : Key}, key = Key.modeOfOperation → od.int key = s.od.int key := by
    rintro _ rfl
    unfold Od.int
    rw [hod _ (by decide) (by decide) (by decide)]
  unfold applyOdCommands
  rw [hbefore]
  generalize hc : ({ s with
    od := od, lastDeviceResetCommand := last, lastParameterSaveCommand := last' } : Servo F) = c
  have hcmode : c.od.int Key.modeOfOperation = c.lastModeCommand := by
    rw [← hc]
    exact (hint rfl).trans hmode
  have hrejects : c.RejectsTarget ↔ s.RejectsTarget := by
    have htarget := hod Key.targetPosition (by decide) (by decide) (by decide)
    have hpositive := hod Key.softwarePositionLimitPositive (by decide) (by decide) (by decide)
    have hnegative := hod Key.softwarePositionLimitNegative (by decide) (by decide) (by decide)
    rw [← hc]
    unfold RejectsTarget positionCommandRequiresReference positionTargetIsWithinSoftwareLimits
      softwarePositionLimits Od.real Od.read
    simp only [htarget, hpositive, hnegative, hint rfl]
  have hmotion := applyMotionCommands_motion hcmode
  rw [hrejects] at hmotion
  rw [← hc] at hmotion ⊢
  exact hmotion

/-- The state machine leaves the motion of a drive that is enabled after it alone. -/
theorem started_motion (he : s.started.enabled = true) :
    s.started.actualVelocity = s.applyOdCommands.actualVelocity ∧
      s.started.ppActive = s.applyOdCommands.ppActive ∧
      s.started.ppTargetPosition = s.applyOdCommands.ppTargetPosition := by
  unfold started processStateMachine at he ⊢
  dsimp only at he ⊢
  split_ifs at he ⊢ with hloss
  · rw [Bool.and_eq_true, Bool.not_eq_true'] at hloss
    exact absurd (he.symm.trans hloss.2) nofun
  · exact ⟨rfl, rfl, rfl⟩

/-- A drive at rest is still at rest when its motion law starts. -/
theorem started_still (h : s.actualVelocity = 0 ∧ s.ppActive = false) :
    s.started.actualVelocity = 0 ∧ s.started.ppActive = false := by
  have hs := s.started_spec
  refine ⟨hs.actualVelocity.elim (·.trans h.1) id, Bool.not_eq_true _ |>.mp fun ha => ?_⟩
  rw [hs.ppActive ha] at h
  exact absurd h.2 nofun

/-- Of two drives that move in the same way, the next update stops one because of its target and
not the other. -/
def Leaks (s t : Servo F) : Prop :=
  s.deviceResetRequested = false ∧ s.sm.process s.controlword = .operationEnabled ∧
    s.od.int Key.modeOfOperation = s.lastModeCommand ∧
    (s.actualVelocity ≠ 0 ∨ s.ppActive = true) ∧ ¬ (s.RejectsTarget ↔ t.RejectsTarget)

/-- The next update is in a mode that does not follow the target: profile velocity, jog, homing, or
profile position without a new set-point. -/
def IgnoresTarget (s : Servo F) : Prop :=
  s.od.int Key.modeOfOperation = 3 ∨ s.od.int Key.modeOfOperation = -3 ∨
    s.od.int Key.modeOfOperation = 6 ∨ s.od.int Key.modeOfOperation = 1 ∧ s.newSetpoint = false

instance [DecidableEq F] (s t : Servo F) : Decidable (s.Leaks t) := inferInstanceAs (Decidable (_ ∧ _))
instance (s : Servo F) : Decidable s.IgnoresTarget := inferInstanceAs (Decidable (_ ∨ _))

namespace Alike

theorem started_near (h : s.Alike t) : s.started.Near t.started :=
  h.applyOdCommands.processStateMachine.1

/-- Two drives that start the motion law in the same way. -/
theorem started (h : s.Alike t) (hs : s.Settled) (ht : t.Settled) (hleak : ¬ s.Leaks t) :
    s.started.Alike t.started := by
  have hnear := h.started_near
  have hstill : s.started.actualVelocity = 0 ∧ s.started.ppActive = false →
      t.started.actualVelocity = 0 ∧ t.started.ppActive = false → s.started.Alike t.started :=
    fun hv hv' => ⟨hnear, hv'.1.trans hv.1.symm, hv'.2.trans hv.2.symm,
      fun ha => absurd (hv.2.symm.trans ha) nofun⟩
  cases he : s.started.enabled with
  | false =>
    have hsettled := started_settled hs
    have hsettled' := started_settled ht
    have he' : t.started.enabled = false := hnear.enabled.trans he
    exact hstill ⟨hsettled.actualVelocity he, hsettled.ppActive he⟩
      ⟨hsettled'.actualVelocity he', hsettled'.ppActive he'⟩
  | true =>
    obtain ⟨hreset, hprocess⟩ := s.started_enabled.mp he
    have hreset' : t.deviceResetRequested = false := h.deviceResetRequested.trans hreset
    by_cases hmode : s.od.int Key.modeOfOperation = s.lastModeCommand
    · have hmode' : t.od.int Key.modeOfOperation = t.lastModeCommand := by
        rw [h.mode, h.lastModeCommand, hmode]
      obtain ⟨hv, hp, hpt⟩ := started_motion he
      obtain ⟨hv', hp', hpt'⟩ := started_motion (hnear.enabled.trans he)
      obtain ⟨hstop, hgo⟩ := applyOdCommands_motion hreset hmode
      obtain ⟨hstop', hgo'⟩ := applyOdCommands_motion hreset' hmode'
      rw [← hv, ← hp] at hstop
      rw [← hv', ← hp'] at hstop'
      rw [← hv, ← hp, ← hpt] at hgo
      rw [← hv', ← hp', ← hpt'] at hgo'
      by_cases hmoving : s.actualVelocity ≠ 0 ∨ s.ppActive = true
      · have hrejects : s.RejectsTarget ↔ t.RejectsTarget := by
          by_contra hne
          exact hleak ⟨hreset, hprocess, hmode, hmoving, hne⟩
        by_cases hr : s.RejectsTarget
        · exact hstill (hstop hr) (hstop' (hrejects.mp hr))
        · obtain ⟨hsv, hsp, hspt⟩ := hgo hr
          obtain ⟨htv, htp, htpt⟩ := hgo' fun hr' => hr (hrejects.mpr hr')
          refine ⟨hnear, ?_, ?_, fun ha => ?_⟩
          · rw [hsv, htv, h.actualVelocity]
          · rw [hsp, htp, h.ppActive]
          · rw [hspt, htpt, h.ppTargetPosition (hsp.symm.trans ha)]
      · rw [not_or, not_not, Bool.not_eq_true] at hmoving
        exact hstill (started_still hmoving) (started_still (by rw [h.actualVelocity, h.ppActive]; exact hmoving))
    · have hmode' : ¬ t.od.int Key.modeOfOperation = t.lastModeCommand := by
        rw [h.mode, h.lastModeCommand]
        exact hmode
      exact hstill (s.started_of_modeChange hreset hmode) (t.started_of_modeChange hreset' hmode')

/-- One update of two such drives. -/
theorem update (h : s.Alike t) (hs : s.Settled) (ht : t.Settled) (hignores : s.IgnoresTarget)
    (hleak : ¬ s.Leaks t) : (modelUpdate s).2.Alike (modelUpdate t).2 := by
  have hstarted := h.started hs ht hleak
  have hpublish : ∀ {p q : Servo F} (c c' : Nat) (m m' : Int), c' = c → p.Alike q →
      (p.publish c m).Alike (q.publish c' m') := by
    intro p q c c' m m' hc hpq
    subst hc
    have hwritten := hpq.toNear.write_shown Key.statusword (by decide) (.int (p.publishedStatusword m))
      (.int (q.publishedStatusword m'))
    exact ⟨⟨congrArg (fun x => { x with previousControlword := c' }) hwritten.setting, hpq.homing,
      hpq.actualPosition, hwritten.od⟩, hpq.actualVelocity, hpq.ppActive, hpq.ppTargetPosition⟩
  have hcommand : t.applyOdCommands.controlword = s.applyOdCommands.controlword :=
    h.applyOdCommands.controlword
  cases he : s.started.enabled with
  | false =>
    rw [s.modelUpdate_disabled he, t.modelUpdate_disabled (hstarted.enabled.trans he)]
    exact hpublish _ _ _ _ hcommand hstarted
  | true =>
    have hreset := (s.started_enabled.mp he).1
    have hmode : s.started.od.int Key.modeOfOperation = s.od.int Key.modeOfOperation := by
      rw [started_mode, applyOdCommands_mode, hreset]
      rfl
    have hagree := hstarted.processMode (m := s.started.od.int Key.modeOfOperation)
      (by rw [hmode]; rcases hignores with h | h | h | h <;> omega)
      (fun h1 => by
        rw [hmode] at h1
        rw [started_newSetpoint_eq hreset]
        rcases hignores with h | h | h | h
        · omega
        · omega
        · omega
        · exact h.2)
    have hupdate : Exec.Agree Alike modelUpdate modelUpdate s t := by
      apply Exec.agree_modify_bind
      apply Exec.agree_get_bind
      apply Exec.agree_modify_bind
      apply Exec.agree_get_bind
      change Exec.Agree Alike (Servo.processMode (s.started.od.int Key.modeOfOperation) >>= _)
        (Servo.processMode (t.started.od.int Key.modeOfOperation) >>= _) s.started t.started
      rw [hstarted.mode]
      exact .bind hagree fun _ _ _ h => Exec.agree_modify (hpublish _ _ _ _ hcommand h)
    exact hupdate.2

end Alike

end Servo

end EthercatSimulator.Behaviour
