import EthercatSimulator.Behaviour.Envelope
import EthercatSimulator.Behaviour.Reference

/-! The targets the position modes track: each one was within the software limits in the cycle
that took it up, or is the position at which the drive stands. -/

namespace EthercatSimulator.Behaviour

open Base Profile Diagnostics PyFloat ExtRat

namespace Servo

variable {s s' : Servo ExtRat} {A B : ExtRat → Prop}

/-- The target that the motion law of the next update tracks. -/
def trackedTarget {F : Type} [PyFloat F] (s : Servo F) : Option F :=
  let s := s.started
  if s.enabled && s.homingReferenced && !s.haltActive then
    if s.od.int Key.modeOfOperation = 8 then some (s.od.real Key.targetPosition)
    else if s.od.int Key.modeOfOperation = 1 then
      if s.newSetpoint && s.positionTargetRejected then none
      else if s.followed.ppActive then some s.followed.ppTargetPosition else none
    else none
  else none

/-- The drive stands at the commanded target and no positioning is under way. -/
structure Parked (s : Servo ExtRat) : Prop where
  target : s.lastTargetPositionCommand.toFloat = s.actualPosition
  actualVelocity : s.actualVelocity = 0
  ppActive : s.ppActive = false

/-- In the position modes the command is one of `A`, or the drive is parked; and positioning heads
for one of `A`. -/
structure Justified (A : ExtRat → Prop) (s : Servo ExtRat) : Prop extends Settled s where
  feedback : s.enabled = false → s.od.real Key.actualPosition = s.actualPosition
  mode : s.ppActive = true → s.lastModeCommand = 1
  command : isPositionMode s.lastModeCommand → A s.lastTargetPositionCommand.toFloat ∨ s.Parked
  target : s.ppActive = true → A s.ppTargetPosition

theorem construct_justified (mode : AxisMode) (A : ExtRat → Prop) :
    (construct mode : Servo ExtRat).Justified A where
  toSettled := construct_settled mode
  feedback _ := by cases mode <;> rfl
  mode := nofun
  command _ := .inr ⟨by cases mode <;> rfl, rfl, rfl⟩
  target := nofun

theorem Justified.mono (h : s.Justified A) (hAB : ∀ t, A t → B t) : s.Justified B :=
  ⟨h.toSettled, h.feedback, h.mode, fun hm => (h.command hm).imp_left (hAB _), fun hp => hAB _ (h.target hp)⟩

theorem same_toFloat {v w : Value ExtRat} (hv : v.Numeric) (hw : w.Numeric) :
    v.same w = true ↔ v.toFloat = w.toFloat := by
  obtain ⟨p, hp⟩ := hv
  obtain ⟨q, hq⟩ := hw
  cases v with
  | int m =>
    cases w with
    | int n =>
      change decide (m = n) = true ↔ num m = num n
      simp
    | float | float32 =>
      change PyFloat.same (num m) (Value.toFloat _) = true ↔ num m = _
      rw [hq]
      simp
  | float | float32 =>
    change PyFloat.same (Value.toFloat _) (Value.toFloat _) = true ↔ _
    rw [hp, hq]
    simp

/-! Commands. -/

/-- A stop parks the drive. -/
theorem stopAtCurrentPosition_parked (s : Servo ExtRat) : s.stopAtCurrentPosition.Parked :=
  ⟨rfl, rfl, rfl⟩

theorem stopAtCurrentPosition_justified (s : Servo ExtRat) : s.stopAtCurrentPosition.Justified A where
  actualVelocity _ := rfl
  ppActive _ := rfl
  feedback _ := rfl
  mode := nofun
  command _ := .inr s.stopAtCurrentPosition_parked
  target := nofun

/-- The target object holds the command. -/
def TargetHeld (s : Servo ExtRat) : Prop :=
  s.od.real Key.targetPosition = s.lastTargetPositionCommand.toFloat

/-- The commanded target, where the present limits allow it. -/
def Allowed (s : Servo ExtRat) (target : ExtRat) : Prop :=
  s.lastTargetPositionCommand.toFloat = target ∧ s.positionTargetIsWithinSoftwareLimits target = true

/-- A target that is taken up justifies itself. -/
theorem TakesTarget.justified (h : s.Justified A) {position : Value ExtRat}
    (hs' : s.TakesTarget position s.lastTargetPositionCommand s') :
    s'.Justified (fun t => A t ∨ s'.Allowed t) ∧ s'.TargetHeld := by
  have hfeedback : ∀ v : Value ExtRat,
      (s.od.write Key.targetPosition v).real Key.actualPosition = s.od.real Key.actualPosition := fun v =>
    congrArg Value.toFloat (s.od.write_of_ne v (by decide))
  have hheld : ∀ v : Value ExtRat,
      (s.od.write Key.targetPosition v).real Key.targetPosition = v.toFloat := fun v =>
    congrArg Value.toFloat (s.od.write_same _ v)
  cases hs' with
  | restores =>
    refine ⟨⟨⟨h.actualVelocity, h.ppActive⟩, fun hd => (hfeedback _).trans (h.feedback hd), h.mode,
      fun hm => ?_, fun hp => .inl (h.target hp)⟩, hheld _⟩
    exact (h.command hm).imp .inl fun hparked => ⟨hparked.target, hparked.actualVelocity, hparked.ppActive⟩
  | rejects =>
    refine ⟨⟨⟨fun _ => rfl, fun _ => rfl⟩, fun _ => rfl, nofun, fun _ => .inr ⟨rfl, rfl, rfl⟩, nofun⟩, rfl⟩
  | accepts within warning reached counter =>
    refine ⟨⟨⟨h.actualVelocity, h.ppActive⟩, fun hd => (hfeedback _).trans (h.feedback hd), h.mode,
      fun _ => .inl (.inr ⟨rfl, ?_⟩), fun hp => .inl (h.target hp)⟩, hheld _⟩
    refine (within_congr (fun key hkey => ?_) position.toFloat).trans within
    refine s.od.write_of_ne position ?_
    rintro rfl
    rcases hkey with hkey | hkey <;> cases hkey

/-- A change of mode parks the drive. -/
theorem setMode_justified (s : Servo ExtRat) {mode previous : Int} (h : mode ≠ previous) :
    (s.setMode mode previous).Justified A ∧ (s.setMode mode previous).TargetHeld := by
  obtain ⟨active, error, heq⟩ := s.setMode_form h
  rw [heq]
  exact ⟨⟨⟨fun _ => rfl, fun _ => rfl⟩, fun _ => rfl, nofun, fun _ => .inr ⟨rfl, rfl, rfl⟩, nofun⟩, rfl⟩

/-- After the motion commands the target object holds a command that is justified. -/
theorem applyMotionCommands_justified (h : s.Justified A) (hs : Finite.Numbers s) :
    s.applyMotionCommands.Justified (fun t => A t ∨ s.applyMotionCommands.Allowed t) ∧
      s.applyMotionCommands.TargetHeld := by
  have hfollowed : s.followMode.Justified A ∧
      ((s.od.read Key.targetPosition).same s.followMode.lastTargetPositionCommand = true →
        s.followMode.TargetHeld) := by
    unfold followMode
    split_ifs with hchange
    · obtain ⟨hjustified, hheld⟩ := s.setMode_justified (A := A) hchange
      exact ⟨hjustified, fun _ => hheld⟩
    · exact ⟨h, (same_toFloat (hs.numeric _ (.inl rfl)) hs.lastTargetPositionCommand).mp⟩
  cases hsame : (s.od.read Key.targetPosition).same s.followMode.lastTargetPositionCommand with
  | true =>
    rw [applyMotionCommands_eq, hsame, if_pos rfl]
    exact ⟨hfollowed.1.mono fun _ => .inl, hfollowed.2 hsame⟩
  | false =>
    rw [applyMotionCommands_eq, hsame, if_neg (by simp)]
    exact (s.followMode.setTargetPosition_takes _ _).justified hfollowed.1

/-- The parameters and commands that no motion depends on. -/
theorem applyParameterSave_justified (h : s.Justified A) : s.applyParameterSave.Justified A := by
  have hfeedback : s.applyParameterSave.od.real Key.actualPosition = s.od.real Key.actualPosition :=
    congrArg Value.toFloat (s.applyParameterSave_od (by decide) (by decide) (by decide))
  have hform : ∃ od, s.applyParameterSave =
      { s with od := od, lastParameterSaveCommand := s.od.int Key.parameterSaveCommand } := by
    unfold applyParameterSave
    dsimp only
    split_ifs
    · exact ⟨_, rfl⟩
    · exact ⟨s.od, rfl⟩
  obtain ⟨od, heq⟩ := hform
  rw [heq] at hfeedback ⊢
  exact ⟨⟨h.actualVelocity, h.ppActive⟩, fun hd => hfeedback.trans (h.feedback hd), h.mode,
    fun hm => (h.command hm).imp_right fun hp => ⟨hp.target, hp.actualVelocity, hp.ppActive⟩, h.target⟩

theorem applyOdCommands_justified (h : s.Justified A) (hs : s.Finite)
    (hreset : s.deviceResetRequested = false) :
    s.applyOdCommands.Justified (fun t => A t ∨ s.applyOdCommands.Allowed t) ∧
      s.applyOdCommands.TargetHeld := by
  have hplain : s.applyDeviceReset =
      { s with lastDeviceResetCommand := s.od.int Key.deviceResetCommand } := by
    unfold applyDeviceReset
    rw [if_neg (by simp [hreset])]
  have hbefore : s.applyDeviceReset.Justified A := by
    rw [hplain]
    exact ⟨⟨h.actualVelocity, h.ppActive⟩, h.feedback, h.mode,
      fun hm => (h.command hm).imp_right fun hp => ⟨hp.target, hp.actualVelocity, hp.ppActive⟩, h.target⟩
  exact applyMotionCommands_justified (applyParameterSave_justified hbefore)
    hs.numbers.applyDeviceReset.applyParameterSave

/-- The commands and the state machine of an update that resets nothing. -/
theorem started_justified (h : s.Justified A) (hs : s.Finite) (hreset : s.deviceResetRequested = false) :
    s.started.Justified (fun t => A t ∨ s.started.Allowed t) ∧ s.started.TargetHeld := by
  obtain ⟨hcommands, hheld⟩ := applyOdCommands_justified h hs hreset
  unfold started processStateMachine
  dsimp only
  split_ifs with hloss
  · exact ⟨stopAtCurrentPosition_justified _, rfl⟩
  · have hdisabled : ∀ {sm : CiA402State}, ¬ (s.applyOdCommands.enabled &&
        !decide (sm = .operationEnabled)) = true → decide (sm = .operationEnabled) = false →
        s.applyOdCommands.enabled = false := by
      intro sm hkept hd
      simpa [hd] using hkept
    exact ⟨⟨⟨fun hd => hcommands.actualVelocity (hdisabled hloss hd),
      fun hd => hcommands.ppActive (hdisabled hloss hd)⟩,
      fun hd => hcommands.feedback (hdisabled hloss hd), hcommands.mode,
      fun hm => (hcommands.command hm).imp_right fun hp => ⟨hp.target, hp.actualVelocity, hp.ppActive⟩,
      hcommands.target⟩, hheld⟩

/-- Commands that have been taken up already. -/
theorem applyMotionCommands_idle (hmode : s.od.int Key.modeOfOperation = s.lastModeCommand)
    (hsame : (s.od.read Key.targetPosition).same s.lastTargetPositionCommand = true) :
    s.applyMotionCommands = s := by
  rw [applyMotionCommands_eq, followMode_idle hmode, if_pos hsame]

/-- A reset commands the position that was fed back last. -/
theorem applyOdCommands_reset (hs : s.Finite) (hreset : s.deviceResetRequested = true) :
    s.applyOdCommands.lastTargetPositionCommand = s.od.read Key.actualPosition ∧
      s.applyOdCommands.od.real Key.actualPosition = s.od.real Key.actualPosition := by
  have hresponse : s.applyDeviceReset = { s.applyDeviceResetResponse with
      lastDeviceResetCommand := s.od.int Key.deviceResetCommand } := by
    unfold applyDeviceReset
    rw [if_pos hreset]
  have hfields : ∀ t : Servo ExtRat, t.applyParameterSave.lastModeCommand = t.lastModeCommand ∧
      t.applyParameterSave.lastTargetPositionCommand = t.lastTargetPositionCommand := by
    intro t
    unfold applyParameterSave
    dsimp only
    split_ifs
    · exact ⟨rfl, rfl⟩
    · exact ⟨rfl, rfl⟩
  have hod : ∀ key, key = Key.targetPosition ∨ key = Key.actualPosition →
      s.applyDeviceReset.applyParameterSave.od key = s.od Key.actualPosition := by
    intro key hkey
    rw [hresponse, applyParameterSave_od]
    · rcases hkey with rfl | rfl <;> rfl
    all_goals rintro rfl; rcases hkey with hkey | hkey <;> cases hkey
  have hmode : s.applyDeviceReset.applyParameterSave.od.int Key.modeOfOperation =
      s.applyDeviceReset.applyParameterSave.lastModeCommand := by
    rw [applyParameterSave_int _ (by decide) (by decide) (by decide), (hfields _).1, hresponse]
    rfl
  have hlast : s.applyDeviceReset.applyParameterSave.lastTargetPositionCommand =
      s.od.read Key.actualPosition := by
    rw [(hfields _).2, hresponse]
    rfl
  have hsame : (s.od.read Key.actualPosition).same (s.od.read Key.actualPosition) = true :=
    (same_toFloat (hs.numeric _ (.inr (.inl rfl))) (hs.numeric _ (.inr (.inl rfl)))).mpr rfl
  have hunchanged : s.applyOdCommands = s.applyDeviceReset.applyParameterSave := by
    refine applyMotionCommands_idle hmode ?_
    rw [hlast, Od.read, hod _ (.inl rfl)]
    exact hsame
  rw [hunchanged]
  exact ⟨hlast, congrArg Value.toFloat (hod _ (.inr rfl))⟩

theorem started_justified_of_reset (h : s.Justified A) (hs : s.Finite)
    (hreset : s.deviceResetRequested = true) : s.started.Justified B := by
  have hd : s.started.enabled = false := by
    by_contra hne
    rw [Bool.not_eq_false, started_enabled, hreset] at hne
    cases hne.1
  have hsettled := started_settled h.toSettled
  have hparked : s.started.Parked ∧ s.started.od.real Key.actualPosition = s.started.actualPosition := by
    obtain ⟨hlast, hfeedback⟩ := applyOdCommands_reset hs hreset
    have hposition := (Commanded.applyOdCommands s).actualPosition
    have henabled : s.applyOdCommands.enabled = s.enabled := by
      unfold enabled
      rw [(Commanded.applyOdCommands s).sm]
    have hv := hsettled.actualVelocity hd
    have hpp := hsettled.ppActive hd
    unfold started processStateMachine at hd hv hpp ⊢
    dsimp only at hd hv hpp ⊢
    split_ifs at hd hv hpp ⊢ with hloss
    · exact ⟨stopAtCurrentPosition_parked _, rfl⟩
    · have hbefore : s.enabled = false := by
        rw [← henabled]
        rw [hd] at hloss
        simpa using hloss
      have hfed := h.feedback hbefore
      refine ⟨⟨?_, hv, hpp⟩, (hfeedback.trans hfed).trans hposition.symm⟩
      change s.applyOdCommands.lastTargetPositionCommand.toFloat = s.applyOdCommands.actualPosition
      rw [hlast, hposition]
      exact hfed
  exact ⟨hsettled, fun _ => hparked.2, fun hp => absurd hp (by simp [hsettled.ppActive hd]),
    fun _ => .inr hparked.1, fun hp => absurd hp (by simp [hsettled.ppActive hd])⟩

/-! Motion laws. -/

theorem Parked.unmoved (h : s.Parked) (hs : s.Unmoved s')
    (hlast : s'.lastTargetPositionCommand = s.lastTargetPositionCommand) : s'.Parked :=
  ⟨by rw [hlast, h.target, hs.actualPosition], hs.actualVelocity, hs.ppActive⟩

theorem Parked.resting (h : s.Parked) (hs : s.Finite) {t : ℚ} (ht : s.cycleTime = num t) : s.Resting :=
  ⟨h.actualVelocity, h.ppActive, hs.sound, t, ht⟩

/-- A set-point at the position of the drive is reached at once. -/
theorem ppMove_unmoved (hs : s.Finite) {t : ℚ} (ht : s.cycleTime = num t) (hpos : 0 ≤ t)
    (htarget : s.ppTargetPosition = s.actualPosition) (hv : s.actualVelocity = 0) :
    ppMove.Post s fun _ q => s.Unmoved q := by
  obtain ⟨p, hp⟩ := hs.actualPosition
  obtain ⟨b, hb, hdecel⟩ := hs.profileDeceleration
  obtain ⟨w, hw⟩ := hs.sound.real_num Key.positionWindow rfl (by simp [Key.isMotion]) (by decide)
  obtain ⟨d, hd, hdelta⟩ := s.accelerationToVelocityDelta_num hb ht hpos
  have harrived : s.ppArrived = true := by
    unfold ppArrived
    dsimp only
    rw [htarget, hp, hv, hdecel, hw, abs_num, abs_num, abs_of_nonneg hb, hdelta, num_sub, zero_def,
      abs_num, abs_num]
    simp [lit, hd]
  apply Exec.post_get_bind
  rw [if_pos harrived]
  apply Exec.post_modify_bind
  apply Exec.post_modify_bind
  exact updateTargetReached_unmoved ⟨htarget, rfl, rfl⟩

theorem processPp_parked (h : s.Parked) (hheld : s.TargetHeld) (hs : s.Finite) {t : ℚ}
    (ht : s.cycleTime = num t) (hpos : 0 ≤ t) : processPp.Post s fun _ q => s.Unmoved q := by
  have hrest := h.resting hs ht
  cases hedge : s.newSetpoint with
  | false => exact processPp_unmoved hrest hedge
  | true =>
    refine processPp_unmoved_of hrest ?_
    have htarget : s.od.real Key.targetPosition = s.actualPosition := hheld.trans h.target
    have hfollowed : s.followed = { s.ppLatch with ppSetpointAck := hasBits s.controlword 0x10 } := by
      unfold followed
      rw [hedge]
      rfl
    apply ppFollow_post
    · intro _
      have hfinite : s.followed.Finite := by
        obtain ⟨active, ack, reached, target, counter, heq⟩ := hs.followed
        rw [heq]
        exact hs.followedBy active ack reached target counter
      rw [hfollowed] at hfinite ⊢
      exact (ppMove_unmoved hfinite ht hpos htarget h.actualVelocity).mono
        fun _ q hq => ⟨hq.actualPosition, hq.actualVelocity, hq.ppActive⟩
    · intro hidle
      rw [hfollowed] at hidle
      cases hidle

/-- Positioning heads for the target it had, or for the one it latched. -/
theorem processPp_target (htarget : s.ppActive = true → A s.ppTargetPosition)
    (hlatch : A (s.od.real Key.targetPosition)) :
    processPp.Post s fun _ q => q.ppActive = true → A q.ppTargetPosition := by
  have hmove : ∀ q : Servo ExtRat, (q.ppActive = true → A q.ppTargetPosition) →
      ppMove.Post q fun _ q => q.ppActive = true → A q.ppTargetPosition := by
    intro q hq
    have hreached := fun {q : Servo ExtRat} (hq : q.ppActive = true → A q.ppTargetPosition) =>
      updateTargetReached_post (P := fun q => q.ppActive = true → A q.ppTargetPosition)
        (fun _ _ _ => id) hq
    apply Exec.post_get_bind
    split
    · apply Exec.post_modify_bind
      apply Exec.post_modify_bind
      exact hreached (q := q.ppArrive.writeActualFeedback) nofun
    · apply Exec.Post.bind
      · apply Exec.post_ofExcept
        intro d _
        have hadvanced : (q.ppAdvance d).ppActive = true → A (q.ppAdvance d).ppTargetPosition := by
          obtain ⟨velocity, heq | ⟨position, heq⟩⟩ := q.ppAdvance_cases d <;> rw [heq]
          · exact nofun
          · exact hq
        apply Exec.post_modify_bind
        apply Exec.post_modify_bind
        exact hreached (q := (q.ppAdvance d).writeActualFeedback) hadvanced
      · apply Exec.post_ofExcept
        exact fun e _ => hq
  apply Exec.post_get_bind
  apply Exec.post_when
  · intro _
    split
    · exact nofun
    · split
      · exact nofun
      · split
        · exact nofun
        · apply ppFollow_post
          · intro _
            refine hmove _ ?_
            unfold followed
            dsimp only
            split
            · exact fun _ => hlatch
            · exact htarget
          · intro hidle
            apply Exec.post_modify_bind
            refine updateTargetReached_post (P := fun q => q.ppActive = true → A q.ppTargetPosition)
              (fun _ _ _ => id) fun hactive => ?_
            exact absurd (hidle.symm.trans hactive) nofun
  · exact fun _ => htarget

theorem cspStep_parked (h : s.Parked) (hheld : s.TargetHeld) (hs : s.Finite) {t : ℚ}
    (ht : s.cycleTime = num t) (hpos : 0 ≤ t) : s.Unmoved s.cspStep := by
  obtain ⟨p, hp⟩ := hs.actualPosition
  have htarget : s.od.real Key.targetPosition = num p := by rw [hheld, h.target, hp]
  obtain ⟨m, hm0, hm, -⟩ := maxVelocity_num hs p
  obtain ⟨r, -, hc⟩ := hs.cspDemand htarget hp hm
  have hzero : max (min ((p - p) * r) m) (-m) = 0 := by
    rw [sub_self, zero_mul, min_eq_left hm0, max_eq_left (by linarith)]
  rw [hzero] at hc
  obtain ⟨d, hd, hclamped⟩ := hs.cspStep_velocity ht hpos h.actualVelocity hc
  have hv : s.cspStep.actualVelocity = num 0 := by
    rw [hclamped, sub_self, min_eq_left hd, max_eq_left (by linarith), add_zero]
  refine ⟨?_, hv, h.ppActive⟩
  obtain ⟨r, -, hr⟩ := integrated_num (s := s.setVelocity s.cspStep.actualVelocity) hp hv ht
  change (s.setVelocity s.cspStep.actualVelocity).integrated = _
  rw [hr, hp, zero_mul, zero_mul, add_zero]

/-- A cyclic target at the position of the drive keeps it there. -/
theorem processCsp_parked (h : s.Parked) (hheld : s.TargetHeld) (hs : s.Finite) {t : ℚ}
    (ht : s.cycleTime = num t) (hpos : 0 ≤ t) : processCsp.Post s fun _ q => s.Unmoved q := by
  have hrest := h.resting hs ht
  have hslowed := slowed_unmoved hrest
  apply Exec.post_get_bind
  apply Exec.post_when
  · intro _
    split
    · exact ⟨hslowed.actualPosition, hslowed.actualVelocity, hslowed.ppActive⟩
    · split
      · exact ⟨hslowed.actualPosition, hslowed.actualVelocity, hslowed.ppActive⟩
      · apply Exec.post_modify_bind
        exact updateTargetReached_unmoved (cspStep_parked h hheld hs ht hpos)
  · exact fun _ => ⟨rfl, h.actualVelocity, h.ppActive⟩

theorem processMode_command (mode : Int) : (processMode mode : PyM (Servo ExtRat) Unit).Keeps
    (Exec.Fixes fun s => (s.lastTargetPositionCommand, s.lastModeCommand, s.sm)) := by
  have hparts : MotionParts (F := ExtRat)
      (Exec.Fixes fun s => (s.lastTargetPositionCommand, s.lastModeCommand, s.sm)) :=
    ⟨fun _ _ _ => rfl, fun _ _ _ => rfl⟩
  exact hparts.processMode (fun _ => ⟨fun _ _ _ _ => rfl⟩) fun _ =>
    ⟨fun _ _ _ _ _ => rfl, fun _ => rfl⟩

/-- Only profile position mode looks after the positioning. -/
theorem processMode_positioning {mode : Int} (h : mode ≠ 1) :
    (processMode mode : PyM (Servo ExtRat) Unit).Keeps
      (Exec.Fixes fun s => (s.ppActive, s.ppTargetPosition)) := by
  have hparts : MotionParts (F := ExtRat) (Exec.Fixes fun s => (s.ppActive, s.ppTargetPosition)) :=
    ⟨fun _ _ _ => rfl, fun _ _ _ => rfl⟩
  exact hparts.processMode (fun hmode => absurd hmode h) fun _ => ⟨fun _ _ _ _ _ => rfl, fun _ => rfl⟩

/-- A parked drive stays parked in the position modes. -/
theorem processMode_parked (h : s.Parked) (hheld : s.TargetHeld) (hs : s.Finite) {t : ℚ}
    (ht : s.cycleTime = num t) (hpos : 0 ≤ t) {mode : Int} (hmode : isPositionMode mode) :
    (processMode mode).Post s fun _ q => s.Unmoved q := by
  rcases hmode with rfl | rfl
  · exact processPp_parked h hheld hs ht hpos
  · exact processCsp_parked h hheld hs ht hpos

theorem processMode_justified (h : s.Justified A) (hheld : s.TargetHeld) (hs : s.Finite) {t : ℚ}
    (ht : s.cycleTime = num t) (hpos : 0 ≤ t) (he : s.enabled = true)
    (hmode : s.lastModeCommand = s.od.int Key.modeOfOperation) :
    (processMode (s.od.int Key.modeOfOperation)).Post s fun _ q =>
      q.Justified A ∧ q.lastTargetPositionCommand = s.lastTargetPositionCommand := by
  rw [← hmode]
  have hkept := processMode_command s.lastModeCommand s
  have hlaw : (processMode s.lastModeCommand).Post s fun _ q =>
      (q.ppActive = true → s.lastModeCommand = 1 ∧ A q.ppTargetPosition) ∧
      (isPositionMode s.lastModeCommand → A s.lastTargetPositionCommand.toFloat ∨ s.Unmoved q ∧ s.Parked) := by
    have hother : s.lastModeCommand ≠ 1 → (processMode s.lastModeCommand).Post s fun _ q =>
        q.ppActive = true → s.lastModeCommand = 1 ∧ A q.ppTargetPosition := by
      intro hne hactive
      obtain ⟨hpp, -⟩ := Prod.mk.inj (processMode_positioning hne s)
      exact absurd (h.mode (hpp ▸ hactive)) hne
    by_cases hposition : isPositionMode s.lastModeCommand
    · rcases h.command hposition with hA | hparked
      · by_cases h1 : s.lastModeCommand = 1
        · have htarget := processPp_target (A := A) (s := s) h.target (by rw [hheld]; exact hA)
          rw [h1]
          exact htarget.mono fun _ q hq => ⟨fun hactive => ⟨rfl, hq hactive⟩, fun _ => .inl hA⟩
        · exact (hother h1).mono fun _ q hq => ⟨hq, fun _ => .inl hA⟩
      · refine (processMode_parked hparked hheld hs ht hpos hposition).mono fun _ q hq => ?_
        exact ⟨fun hactive => absurd (hq.ppActive.symm.trans hactive) nofun, fun _ => .inr ⟨hq, hparked⟩⟩
    · refine (hother fun h1 => hposition (.inl h1)).mono fun _ q hq => ?_
      exact ⟨hq, fun hp => absurd hp hposition⟩
  unfold Exec.Post at hlaw ⊢
  obtain ⟨hlast, hrest⟩ := Prod.mk.inj hkept
  obtain ⟨hlastMode, hsm⟩ := Prod.mk.inj hrest
  have henabled : (processMode s.lastModeCommand s).2.enabled = true := by
    unfold enabled
    rw [hsm]
    exact he
  refine ⟨⟨⟨fun hd => absurd hd (by simp [henabled]), fun hd => absurd hd (by simp [henabled])⟩,
    fun hd => absurd hd (by simp [henabled]), fun hactive => ?_, fun hposition => ?_, fun hactive =>
      (hlaw.1 hactive).2⟩, hlast⟩
  · rw [hlastMode]
    exact (hlaw.1 hactive).1
  · rw [hlastMode] at hposition
    rw [hlast]
    exact (hlaw.2 hposition).imp_right fun hp => hp.2.unmoved hp.1 hlast

theorem publish_justified {q : Servo ExtRat} (h : q.Justified A) (controlword : Nat) (mode : Int) :
    (q.publish controlword mode).Justified A := by
  have hfeedback : (q.publish controlword mode).od.real Key.actualPosition =
      q.od.real Key.actualPosition := by
    unfold publish Od.real
    rw [write_od_of_ne _ _ (by decide)]
  exact ⟨⟨h.actualVelocity, h.ppActive⟩, fun hd => hfeedback.trans (h.feedback hd), h.mode,
    fun hm => (h.command hm).imp_right fun hp => ⟨hp.target, hp.actualVelocity, hp.ppActive⟩, h.target⟩

theorem update_lastTargetPositionCommand (s : Servo ExtRat) :
    (modelUpdate s).2.lastTargetPositionCommand = s.started.lastTargetPositionCommand :=
  s.modelUpdate_law (P := fun q => q.lastTargetPositionCommand = s.started.lastTargetPositionCommand)
    (fun _ _ _ hq => hq) (congrArg Prod.fst (processMode_command _ s.started))

theorem update_allowed {target : ExtRat} (h : s.started.Allowed target) :
    (modelUpdate s).2.Allowed target := by
  refine ⟨by rw [update_lastTargetPositionCommand]; exact h.1, ?_⟩
  rw [within_congr (s := s.started) fun key hkey => ?_]
  · exact h.2
  · rcases hkey with rfl | rfl
    · exact s.update_od (by decide) (by decide) (by decide) (by decide)
    · exact s.update_od (by decide) (by decide) (by decide) (by decide)

/-- After an update the commands are justified by what was allowed before, or by the limits of
this update. -/
theorem update_justified (h : s.Justified A) (hs : s.Finite) {t : ℚ} (ht : s.cycleTime = num t)
    (hpos : 0 ≤ t) :
    (modelUpdate s).2.Justified fun target => A target ∨ (modelUpdate s).2.Allowed target := by
  have hlaw : (modelUpdate s).2.Justified fun target => A target ∨ s.started.Allowed target := by
    refine s.modelUpdate_law
      (P := fun q => q.Justified fun target => A target ∨ s.started.Allowed target)
      (fun _ _ _ hq => publish_justified hq _ _) ?_
    cases he : s.started.enabled with
    | false =>
      unfold Exec.Post
      rw [processMode_disabled he]
      cases hreset : s.deviceResetRequested with
      | true => exact started_justified_of_reset h hs hreset
      | false => exact (started_justified h hs hreset).1
    | true =>
      obtain ⟨hjustified, hheld⟩ := started_justified h hs (s.started_enabled.mp he).1
      have hmode : s.started.lastModeCommand = s.started.od.int Key.modeOfOperation := by
        rw [s.started_spec.lastModeCommand, started_mode]
      exact (processMode_justified hjustified hheld hs.started (s.started_spec.cycleTime.trans ht) hpos
        he hmode).mono fun _ q hq => hq.1
  exact hlaw.mono fun target hA => hA.imp_right update_allowed

theorem operate_justified (h : s.Justified A) (hs : s.Finite) {op : Operation ExtRat} (htimed : op.Timed) :
    (s.operate op).Justified fun target =>
      A target ∨ op.isUpdate = true ∧ (s.operate op).Allowed target := by
  have hwritten : ∀ od : Od ExtRat, od.real Key.actualPosition = s.od.real Key.actualPosition →
      Justified A { s with od := od } := fun od hod =>
    ⟨⟨h.actualVelocity, h.ppActive⟩, fun hd => hod.trans (h.feedback hd), h.mode,
      fun hm => (h.command hm).imp_right fun hp => ⟨hp.target, hp.actualVelocity, hp.ppActive⟩, h.target⟩
  cases op with
  | rxpdo payload =>
    refine (hwritten _ ?_).mono fun _ => .inl
    refine congrArg Value.toFloat (rxpdoFrom_fixes payload (fun o ho t default heq => ?_) 0 s.od)
    subst heq
    simp [rxpdoObjects] at ho
  | sdo key payload =>
    unfold operate
    dsimp only
    split
    · rename_i od hod
      obtain ⟨d, v, hd, haccess, -, rfl⟩ := bridgeWriteSdo_ok hod
      refine (hwritten _ ?_).mono fun _ => .inl
      refine congrArg Value.toFloat (s.od.write_of_ne v ?_)
      rintro rfl
      cases hd
      exact haccess rfl
    · exact h.mono fun _ => .inl
  | update dt =>
    obtain ⟨t, hpos, rfl⟩ := htimed dt rfl
    have hbegun : Justified A { s with cycleTime := num t } :=
      ⟨⟨h.actualVelocity, h.ppActive⟩, h.feedback, h.mode,
        fun hm => (h.command hm).imp_right fun hp => ⟨hp.target, hp.actualVelocity, hp.ppActive⟩, h.target⟩
    exact (update_justified hbegun (hs.begun (.update (num t))) rfl hpos).mono
      fun target => .imp_right fun hallowed => ⟨rfl, hallowed⟩

/-- The limits of an update up to operation `n` allowed the target. -/
def allowedBefore (mode : AxisMode) (operations : Nat → Operation ExtRat) (n : Nat) (target : ExtRat) :
    Prop :=
  ∃ m < n, (operations m).isUpdate = true ∧ (servos mode operations (m + 1)).Allowed target

theorem servos_justified (mode : AxisMode) {operations : Nat → Operation ExtRat}
    (htimed : ∀ n, (operations n).Timed) (n : Nat) :
    (servos mode operations n).Justified (allowedBefore mode operations n) := by
  induction n with
  | zero => exact construct_justified mode _
  | succ n ih =>
    refine (operate_justified ih (servos_finite mode htimed n) (htimed n)).mono fun target hA => ?_
    rcases hA with ⟨m, hm, hallowed⟩ | hallowed
    · exact ⟨m, Nat.lt_succ_of_lt hm, hallowed⟩
    · exact ⟨n, Nat.lt_succ_self n, hallowed⟩

/-- The target a motion law tracks is justified. -/
theorem trackedTarget_justified (h : s.Justified A) (hs : s.Finite) {target : ExtRat}
    (htarget : s.trackedTarget = some target) :
    target = s.actualPosition ∨ A target ∨ s.started.Allowed target := by
  unfold trackedTarget at htarget
  dsimp only at htarget
  split at htarget
  · rename_i hruns
    simp only [Bool.and_eq_true] at hruns
    obtain ⟨hjustified, hheld⟩ := started_justified h hs (s.started_enabled.mp hruns.1.1).1
    have hmode : s.started.lastModeCommand = s.started.od.int Key.modeOfOperation := by
      rw [s.started_spec.lastModeCommand, started_mode]
    have hcommand : isPositionMode (s.started.od.int Key.modeOfOperation) →
        s.started.od.real Key.targetPosition = s.actualPosition ∨
          A (s.started.od.real Key.targetPosition) ∨
            s.started.Allowed (s.started.od.real Key.targetPosition) := by
      intro hposition
      rw [hheld]
      rcases hjustified.command (hmode ▸ hposition) with hA | hparked
      · exact .inr hA
      · exact .inl (hparked.target.trans s.started_spec.actualPosition)
    split at htarget
    · rename_i h8
      cases htarget
      exact hcommand (.inr h8)
    · split at htarget
      · rename_i h1
        split at htarget
        · cases htarget
        · split at htarget
          · rename_i hactive
            cases htarget
            cases hedge : s.started.newSetpoint with
            | true =>
              have hlatched : s.started.followed.ppTargetPosition =
                  s.started.od.real Key.targetPosition := by
                unfold followed
                rw [hedge]
                rfl
              rw [hlatched]
              exact hcommand (.inl h1)
            | false =>
              have hfollowed : s.started.followed =
                  { s.started with ppSetpointAck := hasBits s.started.controlword 0x10 } := by
                unfold followed
                rw [hedge]
                rfl
              rw [hfollowed] at hactive ⊢
              exact .inr (hjustified.target hactive)
          · cases htarget
      · cases htarget
  · cases htarget

/-- Home the drive, command a cyclic target, and narrow the limits while it is tracked. -/
def narrowingRun (n : Nat) : Operation ExtRat :=
  let far : Bytes := [0xe8, 0x03, 0x00, 0x00]
  if n = 14 then .sdo Key.softwarePositionLimitPositive [0x64, 0x00, 0x00, 0x00]
  else pdoRun (acceptedFrames.take 5 ++ [positionFrame 0x0f 8 far, positionFrame 0x0f 8 far,
    positionFrame 0x0f 8 far]) n

end Servo

end EthercatSimulator.Behaviour
