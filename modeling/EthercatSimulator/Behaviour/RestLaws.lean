import EthercatSimulator.Behaviour.SoundLaws

/-! A drive at rest stays at rest, in exact arithmetic, until an edge of controlword bit 4. -/

namespace EthercatSimulator.Behaviour

open Base Profile Diagnostics PyFloat ExtRat


namespace Servo

variable {s : Servo ExtRat}

theorem unitScale_num (s : Servo ExtRat) (key : Key) : ∃ q, s.unitScale key = num q := by
  unfold unitScale
  dsimp only
  split <;> exact ⟨_, rfl⟩

theorem positionScale_num (s : Servo ExtRat) : ∃ q, 0 < q ∧ s.positionScale = num q := by
  obtain ⟨q, hq⟩ := s.unitScale_num Key.convertingUnitPosition
  exact ⟨max q (1 / 10 ^ 12), by simp, by simp [positionScale, lit, hq]⟩

theorem velocityScale_num (s : Servo ExtRat) : ∃ q, 0 < q ∧ s.velocityScale = num q := by
  obtain ⟨q, hq⟩ := s.unitScale_num Key.convertingUnitVelocity
  exact ⟨max q (1 / 10 ^ 12), by simp, by simp [velocityScale, lit, hq]⟩

theorem accelerationScale_num (s : Servo ExtRat) : ∃ q, 0 < q ∧ s.accelerationScale = num q := by
  obtain ⟨q, hq⟩ := s.unitScale_num Key.convertingUnitAcceleration
  exact ⟨max q (1 / 10 ^ 12), by simp, by simp [accelerationScale, lit, hq]⟩

theorem moveTowards_self (x : ℚ) (d : ℚ) : moveTowards (num x) (num x) (num d) = num x := by
  unfold moveTowards
  split
  · rfl
  · rename_i hd
    rw [zero_def, num_le, not_le] at hd
    simp [hd.le]

/-- The drive stands still and no positioning is under way. -/
structure Resting (s : Servo ExtRat) : Prop where
  actualVelocity : s.actualVelocity = 0
  ppActive : s.ppActive = false
  sound : s.od.Sound
  cycleTime : ∃ q, s.cycleTime = num q


/-- Nothing moves from `s` to `s'`. -/
structure Unmoved (s s' : Servo ExtRat) : Prop where
  actualPosition : s'.actualPosition = s.actualPosition
  actualVelocity : s'.actualVelocity = 0
  ppActive : s'.ppActive = false

/-- A drive that stands still has nothing to slow down. -/
theorem slowed_still (hv : s.actualVelocity = 0) (hs : s.od.Sound) (hdt : ∃ q, s.cycleTime = num q) :
    s.slowed.actualPosition = s.actualPosition ∧ s.slowed.actualVelocity = 0 := by
  obtain ⟨p, -, hp⟩ := s.positionScale_num
  obtain ⟨v, -, hv'⟩ := s.velocityScale_num
  obtain ⟨a, -, ha⟩ := s.accelerationScale_num
  obtain ⟨d, hd⟩ := hs.real_num Key.profileDeceleration rfl (by simp [Key.isMotion]) (by decide)
  obtain ⟨dt, hdt⟩ := hdt
  have hstill : moveTowards s.actualVelocity 0
      (s.accelerationToVelocityDelta (PyFloat.abs (s.od.real Key.profileDeceleration)) s.cycleTime) = 0 := by
    rw [hv, zero_def, accelerationToVelocityDelta, ha, hv', hd, hdt]
    simp only [abs_num, num_mul, num_div, moveTowards_self]
  have hintegrated : (s.setVelocity 0).integrated = s.actualPosition := by
    change s.actualPosition + (0 : ExtRat) * s.velocityScale / s.positionScale * s.cycleTime = _
    rw [hp, hv', hdt, zero_def]
    simp
  refine ⟨?_, hstill⟩
  change (s.setVelocity (moveTowards s.actualVelocity 0 _)).integrated = _
  rw [hstill, hintegrated]

theorem slowed_unmoved (h : s.Resting) : s.Unmoved s.slowed :=
  have hstill := slowed_still h.actualVelocity h.sound h.cycleTime
  ⟨hstill.1, hstill.2, h.ppActive⟩

theorem updateTargetReached_unmoved {q : Servo ExtRat} (h : s.Unmoved q) :
    updateTargetReached.Post q fun _ s' => s.Unmoved s' := by
  have hkeeps : updateTargetReached.Keeps (Exec.Fixes fun s : Servo ExtRat =>
      (s.actualPosition, s.actualVelocity, s.ppActive)) := by
    refine .bind (fun s => ?_) fun _ => .bind Exec.keeps_get fun _ =>
      .bind (Exec.keeps_ofExcept _) fun n s => ?_
    · change Exec.Fixes _ s (if _ then _ else _)
      split <;> rfl
    · change Exec.Fixes _ s (if _ then _ else _)
      split <;> rfl
  have heq := Prod.mk.inj (hkeeps q)
  have heq' := Prod.mk.inj heq.2
  exact ⟨heq.1.trans h.actualPosition, heq'.1.trans h.actualVelocity, heq'.2.trans h.ppActive⟩

theorem cleared_unmoved (h : s.Resting) (ack reached : Bool) : Unmoved s { s with
    ppActive := false, ppSetpointAck := ack, targetReached := reached }.slowed := by
  have hslowed := slowed_unmoved (s := { s with
    ppActive := false, ppSetpointAck := ack, targetReached := reached })
    ⟨h.actualVelocity, rfl, h.sound, h.cycleTime⟩
  exact ⟨hslowed.actualPosition, hslowed.actualVelocity, hslowed.ppActive⟩

/-- In profile position mode a resting drive stays where it is, unless it follows a set-point. -/
theorem processPp_unmoved_of (h : s.Resting) (hfollow : ppFollow.Post s fun _ q => s.Unmoved q) :
    processPp.Post s fun _ q => s.Unmoved q := by
  apply Exec.post_get_bind
  apply Exec.post_when
  · intro _
    split
    · have hhalt := cleared_unmoved h false s.targetReached
      exact ⟨hhalt.actualPosition, hhalt.actualVelocity, hhalt.ppActive⟩
    · split
      · exact cleared_unmoved h false false
      · split
        · exact cleared_unmoved h false s.targetReached
        · exact hfollow
  · exact fun _ => ⟨rfl, h.actualVelocity, h.ppActive⟩

/-- In profile position mode a resting drive waits for an edge. -/
theorem processPp_unmoved (h : s.Resting) (hedge : s.newSetpoint = false) :
    processPp.Post s fun _ s' => s.Unmoved s' := by
  refine processPp_unmoved_of h ?_
  have hfollowed : s.followed = { s with ppSetpointAck := hasBits s.controlword 0x10 } := by
    unfold followed
    rw [hedge]
    rfl
  apply ppFollow_post
  · intro hactive
    rw [hfollowed] at hactive
    exact absurd (hactive.symm.trans h.ppActive) nofun
  · intro _
    rw [hfollowed]
    apply Exec.post_modify_bind
    apply updateTargetReached_unmoved
    have hslowed := slowed_unmoved (s := { s with ppSetpointAck := hasBits s.controlword 0x10 })
      ⟨h.actualVelocity, h.ppActive, h.sound, h.cycleTime⟩
    exact ⟨hslowed.actualPosition, hslowed.actualVelocity, hslowed.ppActive⟩

theorem publish_unmoved {q : Servo ExtRat} (h : s.Unmoved q) (controlword : Nat) (mode : Int) :
    s.Unmoved (q.publish controlword mode) :=
  ⟨h.actualPosition, h.actualVelocity, h.ppActive⟩

theorem started_resting (h : s.Resting) : s.started.Resting := by
  have hs := s.started_spec
  refine ⟨hs.actualVelocity.elim (·.trans h.actualVelocity) id, ?_, started_sound h.sound, ?_⟩
  · by_contra hne
    have := hs.ppActive (by simpa using hne)
    rw [h.ppActive] at this
    cases this
  · rw [hs.cycleTime]
    exact h.cycleTime

/-- An update that leaves the drive disabled stops it where it is. -/
theorem update_disabled_unmoved (h : s.Settled) (hd : s.started.enabled = false) :
    s.Unmoved (modelUpdate s).2 := by
  have hstarted := started_settled h
  rw [modelUpdate_disabled s hd]
  have hunmoved : s.Unmoved s.started :=
    ⟨s.started_spec.actualPosition, hstarted.actualVelocity hd, hstarted.ppActive hd⟩
  exact publish_unmoved hunmoved _ _

/-- An update in profile position mode leaves a resting drive at rest while bit 4 is low. -/
theorem update_unmoved (h : s.Resting) (hmode : s.od.int Key.modeOfOperation = 1)
    (hlow : hasBits s.controlword 0x10 = false) : s.Unmoved (modelUpdate s).2 := by
  have hs := s.started_spec
  cases hd : s.started.enabled with
  | false => exact update_disabled_unmoved ⟨fun _ => h.actualVelocity, fun _ => h.ppActive⟩ hd
  | true =>
    have hreset : ¬ s.deviceResetRequested = true := by
      intro hr
      unfold enabled at hd
      rw [hs.sm, applyOdCommands_controlword, if_pos hr, CiA402State.process_zero] at hd
      cases hd
    have hmode' : s.started.od.int Key.modeOfOperation = 1 := by
      rw [started_mode, applyOdCommands_mode, if_neg hreset, hmode]
    have hedge : s.started.newSetpoint = false := by
      unfold newSetpoint
      rw [started_controlword, applyOdCommands_controlword, if_neg hreset, hlow, Bool.false_and]
    have hrest := started_resting h
    have hpp : (processMode 1).Post s.started fun _ q => s.Unmoved q := by
      apply (processPp_unmoved hrest hedge).mono
      intro _ q hq
      exact ⟨hq.actualPosition.trans hs.actualPosition, hq.actualVelocity, hq.ppActive⟩
    rw [← hmode'] at hpp
    change modelUpdate.Post s fun _ s' => s.Unmoved s'
    apply Exec.post_modify_bind
    apply Exec.post_get_bind
    apply Exec.post_modify_bind
    apply Exec.post_get_bind
    apply Exec.Post.bind
    · exact hpp.mono fun _ q hq _ _ => publish_unmoved hq _ _
    · exact hpp.mono fun _ q hq _ _ => hq

end Servo

end EthercatSimulator.Behaviour
