import EthercatSimulator.Behaviour.CommandLaws

/-! One servo update as a whole. -/

namespace EthercatSimulator.Behaviour

open Base Profile Diagnostics PyFloat

namespace Servo

variable {F : Type} [PyFloat F] (s : Servo F)

/-- The state from which the motion law of an update starts. -/
def started : Servo F := s.applyOdCommands.processStateMachine

theorem processStateMachine_od {key : Key} (ht : key ≠ Key.targetPosition)
    (hp : key ≠ Key.actualPosition) (hv : key ≠ Key.actualVelocity) :
    s.processStateMachine.od key = s.od key := by
  unfold processStateMachine
  dsimp only
  split_ifs
  · exact stopAtCurrentPosition_od _ ht hp hv
  · rfl

theorem started_od {key : Key} (ht : key ≠ Key.targetPosition) (hp : key ≠ Key.actualPosition)
    (hv : key ≠ Key.actualVelocity) : s.started.od key = s.applyOdCommands.od key :=
  s.applyOdCommands.processStateMachine_od ht hp hv

theorem started_controlword : s.started.controlword = s.applyOdCommands.controlword := by
  unfold Servo.controlword Od.int
  rw [started_od _ (by decide) (by decide) (by decide)]

theorem started_mode :
    s.started.od.int Key.modeOfOperation = s.applyOdCommands.od.int Key.modeOfOperation := by
  unfold Od.int
  rw [started_od _ (by decide) (by decide) (by decide)]

/-- What the commands and the state machine leave of the servo before `s`. -/
structure Started (s s' : Servo F) : Prop where
  sm : s'.sm = s.sm.process s.applyOdCommands.controlword
  previousControlword : s'.previousControlword = s.previousControlword
  lastModeCommand : s'.lastModeCommand = s.applyOdCommands.od.int Key.modeOfOperation
  cycleTime : s'.cycleTime = s.cycleTime
  actualPosition : s'.actualPosition = s.actualPosition
  actualVelocity : s'.actualVelocity = s.actualVelocity ∨ s'.actualVelocity = 0
  ppActive : s'.ppActive = true → s.ppActive = true
  homingActive : s'.homingActive = s.applyOdCommands.homingActive
  homingReferenced : s'.homingReferenced = s.homingReferenced
  homingError : s'.homingError = true → s.homingError = true
  stopped : s.enabled = true → s'.enabled = false → s'.actualVelocity = 0 ∧ s'.ppActive = false

theorem started_spec : s.Started s.started := by
  have hc := Commanded.applyOdCommands s
  have hlast := s.applyOdCommands_lastModeCommand
  have henabled : s.applyOdCommands.enabled = s.enabled := by
    unfold enabled
    rw [hc.sm]
  unfold started
  generalize hcommanded : s.applyOdCommands = c at hc hlast henabled
  have hsm : c.sm.process c.controlword = s.sm.process c.controlword := by rw [hc.sm]
  unfold processStateMachine
  dsimp only
  split_ifs with hloss
  · exact ⟨hcommanded ▸ hsm, hc.previousControlword, hcommanded ▸ hlast, hc.cycleTime,
      hc.actualPosition, .inr rfl, nofun, hcommanded ▸ rfl, hc.homingReferenced,
      hc.homingError, fun _ _ => ⟨rfl, rfl⟩⟩
  · refine ⟨hcommanded ▸ hsm, hc.previousControlword, hcommanded ▸ hlast, hc.cycleTime,
      hc.actualPosition, hc.actualVelocity, hc.ppActive, hcommanded ▸ rfl, hc.homingReferenced,
      hc.homingError, ?_⟩
    intro hs hs'
    rw [henabled, hs, Bool.true_and, Bool.not_eq_true', Bool.not_eq_false] at hloss
    rw [hs'] at hloss
    cases hloss

theorem started_enabled : s.started.enabled = true ↔
    s.deviceResetRequested = false ∧ s.sm.process s.controlword = .operationEnabled := by
  unfold enabled
  rw [s.started_spec.sm, applyOdCommands_controlword, decide_eq_true_eq]
  cases s.deviceResetRequested with
  | true => simp
  | false => simp

theorem started_lawful : s.started.lawful = s.lawful := by
  rw [← s.applyOdCommands_lawful]
  unfold started processStateMachine
  dsimp only
  split_ifs <;> rfl

theorem started_haltActive : s.started.haltActive = hasBits s.started.controlword 0x100 := by
  rw [started_controlword]
  unfold started processStateMachine
  dsimp only
  split_ifs <;> rfl

/-- A change of mode stops the drive. -/
theorem started_of_modeChange (hreset : s.deviceResetRequested = false)
    (hmode : s.od.int Key.modeOfOperation ≠ s.lastModeCommand) :
    s.started.actualVelocity = 0 ∧ s.started.ppActive = false := by
  have hquiet : ∀ {t t' : Servo F}, t.Commanded t' → t.actualVelocity = 0 ∧ t.ppActive = false →
      t'.actualVelocity = 0 ∧ t'.ppActive = false := by
    intro t t' hc ht
    refine ⟨hc.actualVelocity.elim (·.trans ht.1) id, ?_⟩
    by_contra hne
    have := hc.ppActive (by simpa using hne)
    rw [ht.2] at this
    cases this
  have hbefore : s.applyDeviceReset.applyParameterSave.od.int Key.modeOfOperation =
      s.od.int Key.modeOfOperation ∧
      s.applyDeviceReset.applyParameterSave.lastModeCommand = s.lastModeCommand := by
    have hplain : s.applyDeviceReset =
        { s with lastDeviceResetCommand := s.od.int Key.deviceResetCommand } := by
      unfold applyDeviceReset
      rw [if_neg (by simp [hreset])]
    rw [applyParameterSave_int _ (by decide) (by decide) (by decide), hplain]
    refine ⟨rfl, ?_⟩
    unfold applyParameterSave
    dsimp only
    split_ifs <;> rfl
  generalize hbefore_eq : s.applyDeviceReset.applyParameterSave = t at hbefore
  have hfollowed : t.followMode.actualVelocity = 0 ∧ t.followMode.ppActive = false := by
    unfold followMode setMode
    rw [hbefore.1, hbefore.2, if_pos hmode, if_pos hmode]
    dsimp only
    split_ifs <;> exact ⟨rfl, rfl⟩
  have hcommanded : s.applyOdCommands.actualVelocity = 0 ∧ s.applyOdCommands.ppActive = false := by
    unfold applyOdCommands
    rw [hbefore_eq]
    exact hquiet (.ite (.refl _) (.setTargetPosition _ _ _)) hfollowed
  unfold started processStateMachine
  dsimp only
  split_ifs
  · exact ⟨rfl, rfl⟩
  · exact hcommanded

/-- A drive that is not enabled stands still. -/
structure Settled (s : Servo F) : Prop where
  actualVelocity : s.enabled = false → s.actualVelocity = 0
  ppActive : s.enabled = false → s.ppActive = false

theorem construct_settled (mode : AxisMode) : (construct mode : Servo F).Settled :=
  ⟨fun _ => rfl, fun _ => rfl⟩

variable {s} in
theorem started_settled (h : s.Settled) : s.started.Settled := by
  have hs := s.started_spec
  cases he : s.enabled with
  | true => exact ⟨fun hd => (hs.stopped he hd).1, fun hd => (hs.stopped he hd).2⟩
  | false =>
    refine ⟨fun _ => hs.actualVelocity.elim (·.trans (h.actualVelocity he)) id, fun _ => ?_⟩
    by_contra hne
    have := hs.ppActive (by simpa using hne)
    rw [h.ppActive he] at this
    cases this

/-- An update drives the servo from there and publishes, unless the motion law raises. -/
theorem modelUpdate_post : modelUpdate.Post s fun r s' => ∃ q, s.started.Driven q ∧
    (r = .ok () → s' = q.publish s.applyOdCommands.controlword
      (s.started.od.int Key.modeOfOperation)) ∧
    ∀ e, r = .error e → s' = q := by
  apply Exec.post_modify_bind
  apply Exec.post_get_bind
  apply Exec.post_modify_bind
  apply Exec.post_get_bind
  have hmode := Driven.processMode (s := s.started) rfl
  apply Exec.Post.bind
  · apply hmode.mono
    exact fun _ q hq _ _ => ⟨q, hq, fun _ => rfl, nofun⟩
  · apply hmode.mono
    exact fun _ q hq _ _ => ⟨q, hq, nofun, fun _ _ => rfl⟩

/-- What publishing keeps holds after an update if it holds after the motion law. -/
theorem modelUpdate_law {P : Servo F → Prop}
    (hpublish : ∀ q : Servo F, ∀ controlword mode, P q → P (q.publish controlword mode))
    (h : (processMode (s.started.od.int Key.modeOfOperation)).Post s.started fun _ q => P q) :
    P (modelUpdate s).2 := by
  change modelUpdate.Post s fun _ s' => P s'
  apply Exec.post_modify_bind
  apply Exec.post_get_bind
  apply Exec.post_modify_bind
  apply Exec.post_get_bind
  apply Exec.Post.bind
  · exact h.mono fun _ q hq _ _ => hpublish q _ _ hq
  · exact h.mono fun _ q hq _ _ => hq

/-- Publishing the statusword leaves the motion alone. -/
structure Published (q s' : Servo F) : Prop where
  sm : s'.sm = q.sm
  cycleTime : s'.cycleTime = q.cycleTime
  actualPosition : s'.actualPosition = q.actualPosition
  actualVelocity : s'.actualVelocity = q.actualVelocity
  lastModeCommand : s'.lastModeCommand = q.lastModeCommand
  ppActive : s'.ppActive = q.ppActive
  homingActive : s'.homingActive = q.homingActive
  homingReferenced : s'.homingReferenced = q.homingReferenced
  homingError : s'.homingError = q.homingError

theorem publish_published (q : Servo F) (controlword : Nat) (mode : Int) :
    q.Published (q.publish controlword mode) := ⟨rfl, rfl, rfl, rfl, rfl, rfl, rfl, rfl, rfl⟩

theorem modelUpdate_published : ∃ q, s.started.Driven q ∧ q.Published (modelUpdate s).2 := by
  obtain ⟨q, hq, hok, herr⟩ := s.modelUpdate_post
  refine ⟨q, hq, ?_⟩
  cases hr : (modelUpdate s).1 with
  | ok _ => rw [hok hr]; exact q.publish_published _ _
  | error e => rw [herr e hr]; exact ⟨rfl, rfl, rfl, rfl, rfl, rfl, rfl, rfl, rfl⟩

theorem update_enabled : (modelUpdate s).2.enabled = s.started.enabled := by
  obtain ⟨q, hdriven, hpublished⟩ := s.modelUpdate_published
  unfold enabled
  rw [hpublished.sm, hdriven.sm]

theorem update_mode : (modelUpdate s).2.od.int Key.modeOfOperation =
    s.started.od.int Key.modeOfOperation := by
  refine s.modelUpdate_law (P := fun q => q.od.int Key.modeOfOperation = _) (fun q _ _ hq => ?_) ?_
  · rw [← hq]
    unfold publish Od.int
    rw [write_od_of_ne _ _ (by decide)]
  · exact (Driven.processMode rfl).mono fun _ q hq => hq.mode

theorem update_lastModeCommand : (modelUpdate s).2.lastModeCommand =
    (modelUpdate s).2.od.int Key.modeOfOperation := by
  obtain ⟨q, hdriven, hpublished⟩ := s.modelUpdate_published
  rw [hpublished.lastModeCommand, hdriven.lastModeCommand, s.started_spec.lastModeCommand,
    update_mode, started_mode]

/-- A drive that is not enabled only publishes. -/
theorem modelUpdate_disabled (h : s.started.enabled = false) : modelUpdate s =
    (.ok (), s.started.publish s.applyOdCommands.controlword
      (s.started.od.int Key.modeOfOperation)) := by
  change (processMode (s.started.od.int Key.modeOfOperation) >>= fun _ => _) s.started = _
  rw [Exec.run_bind_ok (processMode_disabled h _)]
  rfl

variable {s} in
theorem update_settled (h : s.Settled) : (modelUpdate s).2.Settled := by
  cases he : s.started.enabled with
  | false =>
    have hstarted := started_settled h
    have hpublished := s.started.publish_published s.applyOdCommands.controlword
      (s.started.od.int Key.modeOfOperation)
    rw [modelUpdate_disabled s he]
    exact ⟨fun _ => hpublished.actualVelocity.trans (hstarted.actualVelocity he),
      fun _ => hpublished.ppActive.trans (hstarted.ppActive he)⟩
  | true =>
    obtain ⟨q, hdriven, hpublished⟩ := s.modelUpdate_published
    have henabled : (modelUpdate s).2.enabled = true := by
      unfold enabled at he ⊢
      rw [hpublished.sm, hdriven.sm, he]
    exact ⟨fun hd => absurd hd (by simp [henabled]), fun hd => absurd hd (by simp [henabled])⟩

end Servo

end EthercatSimulator.Behaviour
