import EthercatSimulator.Behaviour.Acknowledge

/-! Which set-points profile position mode takes. -/

namespace EthercatSimulator.Behaviour

open Base Profile Diagnostics PyFloat

namespace Servo

variable {F : Type} [PyFloat F] {s : Servo F}

/-- The target the next update compares the dictionary with; a change of mode forgets the last one. -/
def rememberedTarget (s : Servo F) : Value F :=
  if s.od.int Key.modeOfOperation ≠ s.lastModeCommand then .float s.actualPosition
  else s.lastTargetPositionCommand

/-- A target was rejected, and the next one does not look new. -/
def StaleRejection (s : Servo F) : Prop :=
  s.positionTargetRejected = true ∧ (s.od.read Key.targetPosition).same s.rememberedTarget = true

instance (s : Servo F) : Decidable s.StaleRejection := inferInstanceAs (Decidable (_ ∧ _))

/-- The target in the dictionary, or a number equal to it. -/
def IsTarget (s : Servo F) (v : Value F) : Prop :=
  v = s.od.read Key.targetPosition ∨ (s.od.read Key.targetPosition).same v = true

/-! Commands. -/

theorem followMode_target (s : Servo F) : s.followMode.lastTargetPositionCommand = s.rememberedTarget ∧
    (s.followMode.od.read Key.targetPosition = s.od.read Key.targetPosition ∨
      s.followMode.od.read Key.targetPosition = s.rememberedTarget) := by
  unfold followMode rememberedTarget
  split_ifs with h
  · obtain ⟨active, error, heq⟩ := s.setMode_form h
    rw [heq]
    exact ⟨rfl, .inr rfl⟩
  · exact ⟨rfl, .inl rfl⟩

theorem followMode_fields (s : Servo F) : s.followMode.positionTargetRejected = s.positionTargetRejected ∧
    s.followMode.homingReferenced = s.homingReferenced := by
  unfold followMode setMode
  dsimp only
  split_ifs <;> exact ⟨rfl, rfl⟩

/-- A legal target is taken, and an old rejection forgotten if the target looks new. -/
theorem applyMotionCommands_legal (href : s.homingReferenced = true)
    (hwithin : s.positionTargetIsWithinSoftwareLimits (s.od.real Key.targetPosition) = true) :
    s.applyMotionCommands.positionTargetRejected = (s.positionTargetRejected &&
        (s.od.read Key.targetPosition).same s.rememberedTarget) ∧
      s.IsTarget (s.applyMotionCommands.od.read Key.targetPosition) := by
  obtain ⟨hlast, htarget⟩ := s.followMode_target
  obtain ⟨hrejected, hreferenced⟩ := s.followMode_fields
  rw [applyMotionCommands_eq, hlast]
  cases hsame : (s.od.read Key.targetPosition).same s.rememberedTarget with
  | true =>
    rw [if_pos rfl, hrejected, Bool.and_true]
    exact ⟨rfl, htarget.imp_right fun h => by rw [h]; exact hsame⟩
  | false =>
    rw [if_neg Bool.false_ne_true, Bool.and_false]
    have htakes := s.followMode.setTargetPosition_takes (s.od.read Key.targetPosition) s.rememberedTarget
    generalize s.followMode.setTargetPosition (s.od.read Key.targetPosition) s.rememberedTarget = s' at htakes
    cases htakes with
    | restores unreferenced =>
      rw [hreferenced, href] at unreferenced
      cases unreferenced.2
    | rejects outside =>
      have hlimits : s.followMode.positionTargetIsWithinSoftwareLimits (s.od.real Key.targetPosition) =
          s.positionTargetIsWithinSoftwareLimits (s.od.real Key.targetPosition) := by
        refine within_congr (fun key hkey => ?_) _
        unfold followMode
        split_ifs
        · rcases hkey with rfl | rfl <;>
            exact s.setMode_od _ _ (by decide) (by decide) (by decide) (by decide) (by decide)
        · rfl
      rw [hwithin] at hlimits
      exact absurd (hlimits.symm.trans outside) (by simp)
    | accepts => exact ⟨rfl, .inl (s.followMode.od.write_same Key.targetPosition (s.od.read Key.targetPosition))⟩

theorem applyOdCommands_legal (hreset : s.deviceResetRequested = false) (href : s.homingReferenced = true)
    (hwithin : s.positionTargetIsWithinSoftwareLimits (s.od.real Key.targetPosition) = true) :
    s.applyOdCommands.positionTargetRejected = (s.positionTargetRejected &&
        (s.od.read Key.targetPosition).same s.rememberedTarget) ∧
      s.IsTarget (s.applyOdCommands.od.read Key.targetPosition) := by
  obtain ⟨od, reset, save, heq, hod⟩ := applyParameterSave_unreset hreset
  have hread : od Key.targetPosition = s.od Key.targetPosition := hod _ (by decide) (by decide) (by decide)
  have hmode : od.int Key.modeOfOperation = s.od.int Key.modeOfOperation := by
    unfold Od.int
    rw [hod _ (by decide) (by decide) (by decide)]
  unfold applyOdCommands
  rw [heq]
  generalize ht : ({ s with od, lastDeviceResetCommand := reset, lastParameterSaveCommand := save } : Servo F) = t
  have htarget : t.od.read Key.targetPosition = s.od.read Key.targetPosition := by rw [← ht]; exact hread
  have hremembered : t.rememberedTarget = s.rememberedTarget := by
    have hint : t.od.int Key.modeOfOperation = s.od.int Key.modeOfOperation := by
      rw [← ht]
      exact hmode
    unfold rememberedTarget
    rw [hint, ← ht]
  have hlimits : t.positionTargetIsWithinSoftwareLimits (s.od.real Key.targetPosition) = true := by
    rw [← hwithin]
    refine within_congr (fun key hkey => ?_) _
    rw [← ht]
    rcases hkey with rfl | rfl <;> exact hod _ (by decide) (by decide) (by decide)
  have hreal : t.od.real Key.targetPosition = s.od.real Key.targetPosition := congrArg Value.toFloat htarget
  have hlegal := applyMotionCommands_legal (s := t) (by rw [← ht]; exact href) (by rw [hreal]; exact hlimits)
  unfold IsTarget at hlegal ⊢
  rw [htarget, hremembered] at hlegal
  rw [← ht] at hlegal ⊢
  exact hlegal

/-- A drive that comes up enabled has not been stopped by the state machine. -/
theorem started_of_enabled (h : s.started.enabled = true) : ∃ halt sm,
    s.started = { s.applyOdCommands with haltActive := halt, sm } := by
  unfold started processStateMachine at h ⊢
  dsimp only at h ⊢
  split_ifs at h ⊢ with hloss
  · have hkept : enabled { s.applyOdCommands with
        haltActive := hasBits s.applyOdCommands.controlword 0x100
        sm := s.applyOdCommands.sm.process s.applyOdCommands.controlword } = true := h
    rw [hkept, Bool.not_true, Bool.and_false] at hloss
    cases hloss
  · exact ⟨_, _, rfl⟩

/-! The cycle. -/

theorem ppFollow_target (h : s.newSetpoint = true) :
    (ppFollow s).2.ppTargetPosition = s.od.real Key.targetPosition := by
  have hfixes := ppFollow_law (R := Exec.Fixes ppTargetPosition) ⟨fun _ _ _ => rfl, fun _ _ _ => rfl⟩ (fun _ => rfl) s
  refine Eq.trans hfixes ?_
  unfold followed
  rw [if_pos h]
  rfl

/-- An edge is followed unless the target is a rejected one. -/
theorem processPp_edge (he : s.enabled = true) (hhalt : s.haltActive = false) (href : s.homingReferenced = true)
    (hedge : s.newSetpoint = true) : processPp s = if s.positionTargetRejected then (.ok (), s.ppReject) else ppFollow s := by
  unfold processPp
  rw [Exec.run_bind_ok (Exec.run_get _), Exec.when, if_pos he, if_neg (by simp [hhalt]), if_neg (by simp [href]), hedge,
    Bool.true_and]
  split_ifs <;> rfl

/-- Enabled, referenced and not halted, the edge of a legal target is latched and acknowledged, unless
the servo remembers a rejection and takes the target for the one it remembers. -/
theorem update_latches_iff (henabled : (modelUpdate s).2.enabled = true) (hmode : s.od.int Key.modeOfOperation = 1)
    (href : s.homingReferenced = true) (hhalt : hasBits s.controlword 0x100 = false) (hedge : s.newSetpoint = true)
    (hwithin : s.positionTargetIsWithinSoftwareLimits (s.od.real Key.targetPosition) = true) :
    ((∃ v, s.IsTarget v ∧ (modelUpdate s).2.ppTargetPosition = v.toFloat) ∧
      (modelUpdate s).2.ppSetpointAck = true ∧ ((modelUpdate s).1 = .ok () →
        hasBits ((modelUpdate s).2.od.int Key.statusword).toNat 0x1000 = true)) ↔ ¬ s.StaleRejection := by
  have hstarted : s.started.enabled = true := by rw [← update_enabled]; exact henabled
  obtain ⟨hreset, -⟩ := s.started_enabled.mp hstarted
  have hcontrolword : s.started.controlword = s.controlword := by
    rw [started_controlword, applyOdCommands_controlword, hreset]
    rfl
  have hpp : s.started.od.int Key.modeOfOperation = 1 := by
    rw [started_mode, applyOdCommands_mode, hreset]
    exact hmode
  have hedge' : s.started.newSetpoint = true := by rw [started_newSetpoint_eq hreset, hedge]
  have hrun := processPp_edge hstarted (by rw [started_haltActive, hcontrolword, hhalt])
    (by rw [s.started_spec.homingReferenced, href]) hedge'
  have hafter : ((modelUpdate s).2.ppTargetPosition, (modelUpdate s).2.ppSetpointAck) =
      ((processPp s.started).2.ppTargetPosition, (processPp s.started).2.ppSetpointAck) := by
    refine s.modelUpdate_law (P := fun q => (q.ppTargetPosition, q.ppSetpointAck) = _) (fun _ _ _ hq => hq) ?_
    rw [hpp]
    rfl
  obtain ⟨htarget, hack⟩ := Prod.mk.inj hafter
  obtain ⟨hrejected, hlegal⟩ := applyOdCommands_legal hreset href hwithin
  have hflag : s.started.positionTargetRejected = true ↔ s.StaleRejection := by
    obtain ⟨_, _, heq⟩ := started_of_enabled hstarted
    rw [heq]
    unfold StaleRejection
    rw [← Bool.and_eq_true, ← hrejected]
  by_cases hstale : s.StaleRejection
  · refine iff_of_false (fun h => ?_) (not_not.mpr hstale)
    rw [hack, hrun, if_pos (hflag.mpr hstale)] at h
    cases h.2.1
  · refine iff_of_true ?_ hstale
    rw [hrun, if_neg (fun h => hstale (hflag.mp h))] at htarget hack
    have hshown : (modelUpdate s).2.ppSetpointAck = true := by
      rw [hack, ppFollow_ack]
      exact (Bool.and_eq_true_iff.mp hedge').1
    refine ⟨⟨s.applyOdCommands.od.read Key.targetPosition, hlegal, ?_⟩, hshown, fun hok => ?_⟩
    · rw [htarget, ppFollow_target hedge']
      obtain ⟨_, _, heq⟩ := started_of_enabled hstarted
      rw [heq]
      rfl
    · rw [(update_shown hok).1, hshown]

/-! A rejected target, and then the position at which the rejection has stopped the drive. -/

def farTarget : Bytes := [0xff, 0xff, 0xff, 0x7f]
def homeTarget : Bytes := [0x00, 0x00, 0x00, 0x00]

/-- After homing, the target beyond the limits, or at home, without an edge, and the one at home with it. -/
def retargetedRun (first : Bytes) : Nat → Operation ExtRat :=
  pdoRun (acceptedFrames.take 5 ++ [positionFrame 0x0f 1 first, positionFrame 0x1f 1 homeTarget])

/-- The servo as the last update of the run finds it. -/
def retargeted (first : Bytes) : Servo ExtRat := updating .linear (retargetedRun first) 13

theorem setpoint_refused :
    (retargeted farTarget).enabled = true ∧ (modelUpdate (retargeted farTarget)).2.enabled = true ∧
      (retargeted farTarget).lastModeCommand = 1 ∧ (retargeted farTarget).od.int Key.modeOfOperation = 1 ∧
      (retargeted farTarget).homingReferenced = true ∧ hasBits (retargeted farTarget).controlword 0x100 = false ∧
      (retargeted farTarget).newSetpoint = true ∧
      (retargeted farTarget).positionTargetIsWithinSoftwareLimits ((retargeted farTarget).od.real Key.targetPosition) = true ∧
      (modelUpdate (retargeted farTarget)).2.ppActive = false ∧
      (modelUpdate (retargeted farTarget)).2.ppSetpointAck = false ∧
      hasBits ((modelUpdate (retargeted farTarget)).2.od.int Key.statusword).toNat 0x1000 = false := by
  decide +kernel

theorem update_latches_home :
    (modelUpdate (retargeted homeTarget)).2.enabled = true ∧
      (∃ v, (retargeted homeTarget).IsTarget v ∧ (modelUpdate (retargeted homeTarget)).2.ppTargetPosition = v.toFloat) ∧
      (modelUpdate (retargeted homeTarget)).2.ppSetpointAck = true := by
  have hstale : ¬ (retargeted homeTarget).StaleRejection := by decide +kernel
  have henabled : (modelUpdate (retargeted homeTarget)).2.enabled = true := by decide +kernel
  have hlatched := (update_latches_iff henabled (by decide +kernel) (by decide +kernel) (by decide +kernel)
    (by decide +kernel) (by decide +kernel)).mpr hstale
  exact ⟨henabled, hlatched.1, hlatched.2.1⟩

end Servo

end EthercatSimulator.Behaviour
