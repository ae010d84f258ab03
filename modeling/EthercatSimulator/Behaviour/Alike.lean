import EthercatSimulator.Base.TwoRuns
import EthercatSimulator.Behaviour.HomingLaws

/-! Two servos that differ in the target position and in what is shown of it: the motion laws of
the modes that do not follow the target move them alike. -/

namespace EthercatSimulator.Profile

/-- What the drive shows of its target and its motion. -/
def Key.isShown (key : Key) : Prop := key.isMotion ∨ key = Key.statusword

instance (key : Key) : Decidable key.isMotion := inferInstanceAs (Decidable (_ ∨ _))
instance (key : Key) : Decidable key.isShown := inferInstanceAs (Decidable (_ ∨ _))

end EthercatSimulator.Profile

namespace EthercatSimulator.Behaviour

open Base Profile Diagnostics PyFloat

namespace Servo

variable {F : Type} {s t u : Servo F}

def homing (s : Servo F) : Bool × Int × Bool × Bool :=
  (s.homingActive, s.homingCounter, s.homingReferenced, s.homingError)

/-- Alike but for the target position, what is shown of it, and the motion. -/
structure Near (s t : Servo F) : Prop where
  setting : t.setting = s.setting
  homing : t.homing = s.homing
  actualPosition : t.actualPosition = s.actualPosition
  od : ∀ key, ¬ key.isShown → t.od key = s.od key

/-- Alike but for the target position and what is shown of it. -/
structure Alike (s t : Servo F) : Prop extends Near s t where
  actualVelocity : t.actualVelocity = s.actualVelocity
  ppActive : t.ppActive = s.ppActive
  ppTargetPosition : s.ppActive = true → t.ppTargetPosition = s.ppTargetPosition

namespace Near

theorem refl (s : Servo F) : s.Near s := ⟨rfl, rfl, rfl, fun _ _ => rfl⟩

theorem symm (h : s.Near t) : t.Near s :=
  ⟨h.setting.symm, h.homing.symm, h.actualPosition.symm, fun key hkey => (h.od key hkey).symm⟩

theorem trans (h : s.Near t) (h' : t.Near u) : s.Near u :=
  ⟨h'.setting.trans h.setting, h'.homing.trans h.homing, h'.actualPosition.trans h.actualPosition,
    fun key hkey => (h'.od key hkey).trans (h.od key hkey)⟩

theorem write (h : s.Near t) (key : Key) {v w : Value F} (hvw : ¬ key.isShown → w = v) :
    (s.write key v).Near (t.write key w) := by
  refine ⟨h.setting, h.homing, h.actualPosition, fun key' hkey' => ?_⟩
  by_cases hkey : key' = key
  · subst hkey
    rw [write_od_same, write_od_same, hvw hkey']
  · rw [write_od_of_ne _ _ hkey, write_od_of_ne _ _ hkey, h.od key' hkey']

theorem write_shown (h : s.Near t) (key : Key) (hkey : key.isShown) (v w : Value F) :
    (s.write key v).Near (t.write key w) := h.write key fun hunshown => absurd hkey hunshown

theorem feedback (h : s.Near t) : s.writeActualFeedback.Near t.writeActualFeedback :=
  (h.write_shown Key.actualPosition (by decide) _ _).write_shown Key.actualVelocity (by decide) _ _

/-- A stop leaves nothing of the motion. -/
theorem stopAtCurrentPosition [PyFloat F] (h : s.Near t) :
    s.stopAtCurrentPosition.Alike t.stopAtCurrentPosition := by
  have hstopped : Near (s.setVelocity 0) (t.setVelocity 0) :=
    ⟨h.setting, h.homing, h.actualPosition, h.od⟩
  have hwritten := (hstopped.write_shown Key.targetPosition (by decide) (.float s.actualPosition)
    (.float t.actualPosition)).feedback
  exact ⟨⟨hwritten.setting, hwritten.homing, hwritten.actualPosition, hwritten.od⟩, rfl, rfl, nofun⟩

/-! What the laws read. -/

theorem int (h : s.Near t) (key : Key) (hkey : ¬ key.isShown) :
    t.od.int key = s.od.int key := by
  unfold Od.int
  rw [h.od key hkey]

theorem sm (h : s.Near t) : t.sm = s.sm := congrArg Setting.sm h.setting
theorem cycleTime (h : s.Near t) : t.cycleTime = s.cycleTime := congrArg Setting.cycleTime h.setting
theorem haltActive (h : s.Near t) : t.haltActive = s.haltActive :=
  congrArg Setting.haltActive h.setting

theorem previousControlword (h : s.Near t) : t.previousControlword = s.previousControlword :=
  congrArg Setting.previousControlword h.setting

theorem lastModeCommand (h : s.Near t) : t.lastModeCommand = s.lastModeCommand :=
  congrArg Setting.lastModeCommand h.setting

theorem homingActive (h : s.Near t) : t.homingActive = s.homingActive := congrArg Prod.fst h.homing

theorem homingCounter (h : s.Near t) : t.homingCounter = s.homingCounter :=
  congrArg (fun x => x.2.1) h.homing

theorem homingReferenced (h : s.Near t) : t.homingReferenced = s.homingReferenced :=
  congrArg (fun x => x.2.2.1) h.homing

theorem controlword (h : s.Near t) : t.controlword = s.controlword := by
  unfold Servo.controlword
  rw [h.int _ (by decide)]

theorem mode (h : s.Near t) : t.od.int Key.modeOfOperation = s.od.int Key.modeOfOperation :=
  h.int _ (by decide)

theorem newSetpoint (h : s.Near t) : t.newSetpoint = s.newSetpoint := by
  unfold Servo.newSetpoint
  rw [h.controlword, h.previousControlword]

theorem enabled (h : s.Near t) : t.enabled = s.enabled := by
  unfold Servo.enabled
  rw [h.sm]

variable [PyFloat F]

theorem real (h : s.Near t) (key : Key) (hkey : ¬ key.isShown) :
    t.od.real key = s.od.real key := by
  unfold Od.real
  rw [h.od key hkey]

theorem unitScale (h : s.Near t) (key : Key) (hkey : ¬ key.isShown) :
    t.unitScale key = s.unitScale key := by
  unfold Servo.unitScale
  rw [h.int key hkey]

theorem positionScale (h : s.Near t) : t.positionScale = s.positionScale := by
  unfold Servo.positionScale
  rw [h.unitScale _ (by decide)]

theorem velocityScale (h : s.Near t) : t.velocityScale = s.velocityScale := by
  unfold Servo.velocityScale
  rw [h.unitScale _ (by decide)]

theorem accelerationScale (h : s.Near t) : t.accelerationScale = s.accelerationScale := by
  unfold Servo.accelerationScale
  rw [h.unitScale _ (by decide)]

theorem accelerationToVelocityDelta (h : s.Near t) (acceleration : F) :
    t.accelerationToVelocityDelta acceleration t.cycleTime =
      s.accelerationToVelocityDelta acceleration s.cycleTime := by
  unfold Servo.accelerationToVelocityDelta
  rw [h.accelerationScale, h.velocityScale, h.cycleTime]

theorem velocityToPositionRate (h : s.Near t) (velocity : F) :
    t.velocityToPositionRate velocity = s.velocityToPositionRate velocity := by
  unfold Servo.velocityToPositionRate
  rw [h.velocityScale, h.positionScale]

theorem positiveLimit (h : s.Near t) : t.positiveLimit = s.positiveLimit := by
  unfold Servo.positiveLimit
  rw [h.real _ (by decide)]

theorem negativeLimit (h : s.Near t) : t.negativeLimit = s.negativeLimit := by
  unfold Servo.negativeLimit
  rw [h.real _ (by decide)]

theorem profileVelocity (h : s.Near t) : t.profileVelocity = s.profileVelocity := by
  unfold Servo.profileVelocity
  rw [h.real _ (by decide)]

theorem softwarePositionLimits (h : s.Near t) : t.softwarePositionLimits = s.softwarePositionLimits := by
  unfold Servo.softwarePositionLimits
  rw [h.real Key.softwarePositionLimitNegative (by decide),
    h.real Key.softwarePositionLimitPositive (by decide)]

end Near

namespace Alike

theorem refl (s : Servo F) : s.Alike s := ⟨.refl s, rfl, rfl, fun _ => rfl⟩

theorem move (h : s.Alike t) {v p v' p' : F} (hv : v' = v) (hp : p' = p) :
    Alike { s with actualVelocity := v, actualPosition := p }
      { t with actualVelocity := v', actualPosition := p' } :=
  ⟨⟨h.setting, h.homing, hp, h.od⟩, hv, h.ppActive, h.ppTargetPosition⟩

theorem feedback (h : s.Alike t) : s.writeActualFeedback.Alike t.writeActualFeedback :=
  ⟨h.toNear.feedback, h.actualVelocity, h.ppActive, h.ppTargetPosition⟩

theorem count (h : s.Alike t) (reached reached' : Bool) (counter counter' : Int) :
    Alike { s with targetReached := reached, windowCounter := counter }
      { t with targetReached := reached', windowCounter := counter' } :=
  ⟨⟨h.setting, h.homing, h.actualPosition, h.od⟩, h.actualVelocity, h.ppActive, h.ppTargetPosition⟩

variable [PyFloat F]

theorem integrated (h : s.Alike t) : t.integrated = s.integrated := by
  unfold Servo.integrated
  rw [h.actualPosition, h.actualVelocity, h.cycleTime, h.velocityToPositionRate]

/-- The drive takes up a velocity and follows it. -/
theorem step (h : s.Alike t) {v v' : F} (hv : v' = v) :
    ((s.setVelocity v).setPosition (s.setVelocity v).integrated).Alike
      ((t.setVelocity v').setPosition (t.setVelocity v').integrated) :=
  h.move hv (h.move hv h.actualPosition).integrated

theorem slowed (h : s.Alike t) : s.slowed.Alike t.slowed := by
  refine (h.step ?_).feedback
  rw [h.actualVelocity, h.accelerationToVelocityDelta,
    h.real Key.profileDeceleration (by decide)]

theorem velocityStep (h : s.Alike t) {target target' : F} (ht : target' = target) :
    (s.velocityStep target (s.od.real Key.profileAcceleration)
      (s.od.real Key.profileDeceleration)).1.Alike
    (t.velocityStep target' (t.od.real Key.profileAcceleration)
      (t.od.real Key.profileDeceleration)).1 := by
  subst ht
  refine (h.step ?_).feedback
  rw [h.actualVelocity, h.accelerationToVelocityDelta,
    h.real Key.profileAcceleration (by decide),
    h.real Key.profileDeceleration (by decide)]

/-! The laws of the velocity modes. -/

theorem pvTarget (h : s.Alike t) : t.pvTarget = s.pvTarget := by
  unfold Servo.pvTarget
  rw [h.haltActive, h.real Key.targetVelocity (by decide), h.positiveLimit, h.negativeLimit]

theorem jogVelocityLimit (h : s.Alike t) : t.jogVelocityLimit = s.jogVelocityLimit := by
  unfold Servo.jogVelocityLimit
  rw [h.profileVelocity, h.positiveLimit, h.negativeLimit, h.controlword]

theorem jogTarget (h : s.Alike t) : t.jogTarget = s.jogTarget := by
  unfold Servo.jogTarget limitJogVelocityAtSoftwareLimit
  rw [h.controlword, h.haltActive, h.jogVelocityLimit, h.softwarePositionLimits, h.actualPosition]

theorem processPv (h : s.Alike t) : Exec.Agree Alike Servo.processPv Servo.processPv s t := by
  apply Exec.agree_get_bind
  refine .when (by rw [h.enabled]) (fun _ => ?_) h
  exact Exec.agree_modify ((h.velocityStep h.pvTarget).count _ _ _ _)

theorem processJog (h : s.Alike t) : Exec.Agree Alike Servo.processJog Servo.processJog s t := by
  apply Exec.agree_get_bind
  refine .when (by rw [h.enabled]) (fun _ => ?_) h
  exact Exec.agree_modify ((h.velocityStep h.jogTarget).count _ _ _ _)

/-! Homing. -/

omit [PyFloat F] in
theorem ite {c d : Prop} [Decidable c] [Decidable d] (hcd : c ↔ d) {a b a' b' : Servo F}
    (ha : a.Alike a') (hb : b.Alike b') : (if c then a else b).Alike (if d then a' else b') := by
  by_cases hc : c
  · rw [if_pos hc, if_pos (hcd.mp hc)]
    exact ha
  · rw [if_neg hc, if_neg fun hd => hc (hcd.mpr hd)]
    exact hb

theorem finishHoming (h : s.Alike t) : s.finishHoming.Alike t.finishHoming := by
  have hmoved : Alike ((s.setPosition 0).setVelocity 0) ((t.setPosition 0).setVelocity 0) := h.move rfl rfl
  have hwritten := (hmoved.toNear.write_shown Key.targetPosition (by decide) (.float 0) (.float 0)).feedback
  exact ⟨⟨hwritten.setting, congrArg (fun x => (false, x.2.1, true, x.2.2.2)) h.homing, rfl,
    hwritten.od⟩, rfl, h.ppActive, h.ppTargetPosition⟩

theorem advanceHoming (h : s.Alike t) : s.advanceHoming.Alike t.advanceHoming := by
  have hcounted : Alike { s with homingCounter := s.homingCounter - 1 }
      { t with homingCounter := t.homingCounter - 1 } :=
    ⟨⟨h.setting, congrArg (fun x => (x.1, x.2.1 - 1, x.2.2)) h.homing, h.actualPosition, h.od⟩,
      h.actualVelocity, h.ppActive, h.ppTargetPosition⟩
  unfold Servo.advanceHoming
  refine ite (by rw [h.homingActive]) h (ite ?_ hcounted hcounted.finishHoming)
  dsimp only
  rw [h.homingCounter]

theorem homingStarted (h : s.Alike t) (counter : Int) :
    (s.homingStarted counter).Alike (t.homingStarted counter) := by
  have hmoved : Alike (s.setVelocity 0) (t.setVelocity 0) := h.move rfl h.actualPosition
  have hwritten := hmoved.feedback
  exact ⟨⟨hwritten.setting, rfl, h.actualPosition, hwritten.od⟩, rfl, h.ppActive, h.ppTargetPosition⟩

theorem startHoming (h : s.Alike t) :
    Exec.Agree Alike (Servo.startHoming : PyM (Servo F) Unit) Servo.startHoming s t := by
  have hcycles : cyclesIn (lit (1 / 10)) t.cycleTime = cyclesIn (lit (1 / 10)) s.cycleTime := by
    rw [h.cycleTime]
  unfold Exec.Agree
  rw [startHoming_eq, startHoming_eq, hcycles]
  cases cyclesIn (lit (1 / 10)) s.cycleTime with
  | ok count => exact ⟨rfl, h.homingStarted count⟩
  | error e =>
    refine ⟨rfl, ?_⟩
    exact ⟨⟨h.setting, congrArg (fun x => (true, x.2)) h.homing, h.actualPosition, h.od⟩,
      h.actualVelocity, h.ppActive, h.ppTargetPosition⟩

theorem processHoming (h : s.Alike t) :
    Exec.Agree Alike Servo.processHoming Servo.processHoming s t := by
  apply Exec.agree_get_bind
  refine .when (by rw [h.enabled]) (fun _ => ?_) h
  refine .bind (.when (by rw [h.newSetpoint]) (fun _ => h.startHoming) h) fun _ s t h => ?_
  exact Exec.agree_modify h.advanceHoming

/-! Profile position, as long as no set-point is latched. -/

theorem updateTargetReached (h : s.Alike t) :
    Exec.Agree Alike Servo.updateTargetReached Servo.updateTargetReached s t := by
  have hite : ∀ {s t : Servo F}, s.Alike t → ∀ (c d : Prop) [Decidable c] [Decidable d]
      (a b a' b' : Bool) (m n m' n' : Int),
      (if c then { s with targetReached := a, windowCounter := m }
        else { s with targetReached := b, windowCounter := n }).Alike
      (if d then { t with targetReached := a', windowCounter := m' }
        else { t with targetReached := b', windowCounter := n' }) := by
    intro s t h c d _ _ a b a' b' m n m' n'
    split <;> split <;> exact h.count _ _ _ _
  apply Exec.agree_modify_bind
  apply Exec.agree_get_bind
  have hwindow := hite h (s.isInPosition = true) (t.isInPosition = true) s.targetReached false
    t.targetReached false (s.windowCounter + 1) 0 (t.windowCounter + 1) 0
  refine .bind (Exec.agree_ofExcept ?_ hwindow) fun n s t h => ?_
  · have htime := hwindow.real Key.positionWindowTime (by decide)
    have hcycle := hwindow.cycleTime
    exact (congrArg₂ (fun x y => cyclesIn x (y * lit 1000)) htime hcycle).symm
  · exact Exec.agree_modify (hite h _ _ true s.targetReached true t.targetReached s.windowCounter
      s.windowCounter t.windowCounter t.windowCounter)

theorem ppArrived (h : s.Alike t) (hactive : s.ppActive = true) : t.ppArrived = s.ppArrived := by
  unfold Servo.ppArrived
  dsimp only
  rw [h.ppTargetPosition hactive, h.actualPosition, h.actualVelocity, h.accelerationToVelocityDelta,
    h.real Key.positionWindow (by decide), h.real Key.profileDeceleration (by decide)]

theorem ppDirection (h : s.Alike t) (hactive : s.ppActive = true) : t.ppDirection = s.ppDirection := by
  unfold Servo.ppDirection
  rw [h.ppTargetPosition hactive, h.actualPosition]

theorem stoppingDistance (h : s.Alike t) (hactive : s.ppActive = true) :
    t.stoppingDistance = s.stoppingDistance := by
  unfold Servo.stoppingDistance accelerationToPositionRate
  rw [h.real Key.profileDeceleration (by decide), h.accelerationScale, h.positionScale,
    h.velocityToPositionRate, h.actualVelocity, h.ppDirection hactive]

theorem maxVelocity (h : s.Alike t) (target : F) : t.maxVelocity target = s.maxVelocity target := by
  unfold Servo.maxVelocity
  rw [h.actualPosition, h.negativeLimit, h.positiveLimit, h.profileVelocity]

theorem ppArrive (h : s.Alike t) (hactive : s.ppActive = true) : s.ppArrive.Alike t.ppArrive :=
  ⟨⟨h.setting, h.homing, h.ppTargetPosition hactive, h.od⟩, rfl, rfl, nofun⟩

theorem ppAdvance (h : s.Alike t) (hactive : s.ppActive = true) (d : F) :
    (s.ppAdvance d).Alike (t.ppAdvance d) := by
  unfold Servo.ppAdvance
  dsimp only
  rw [h.ppTargetPosition hactive, h.actualPosition, h.actualVelocity, h.ppDirection hactive,
    h.maxVelocity, h.accelerationToVelocityDelta, h.real Key.profileDeceleration (by decide),
    h.real Key.profileAcceleration (by decide)]
  generalize moveTowards s.actualVelocity _ _ = velocity
  have hmoved : (s.setVelocity velocity).Alike (t.setVelocity velocity) := h.move rfl h.actualPosition
  refine ite ?_ (hmoved.ppArrive hactive) (hmoved.move rfl hmoved.integrated)
  rw [hmoved.integrated, hmoved.actualPosition]

theorem ppMove (h : s.Alike t) (hactive : s.ppActive = true) :
    Exec.Agree Alike Servo.ppMove Servo.ppMove s t := by
  apply Exec.agree_get_bind
  rw [h.ppArrived hactive]
  split
  · apply Exec.agree_modify_bind
    apply Exec.agree_modify_bind
    exact (h.ppArrive hactive).feedback.updateTargetReached
  · unfold Exec.Agree
    rw [Exec.run_bind, Exec.run_bind, Exec.run_ofExcept, Exec.run_ofExcept, h.stoppingDistance hactive]
    cases s.stoppingDistance with
    | ok d => exact (h.ppAdvance hactive d).feedback.updateTargetReached
    | error e => exact ⟨rfl, h⟩

theorem processPp (h : s.Alike t) (hedge : s.newSetpoint = false) :
    Exec.Agree Alike Servo.processPp Servo.processPp s t := by
  have hclear : ∀ ack reached reached' : Bool, (Servo.slowed { s with
      ppActive := false, ppSetpointAck := ack, targetReached := reached }).Alike (Servo.slowed { t with
      ppActive := false, ppSetpointAck := ack, targetReached := reached' }) := by
    intro ack reached reached'
    refine slowed (s := { s with ppActive := false, ppSetpointAck := ack, targetReached := reached }) ?_
    exact ⟨⟨h.setting, h.homing, h.actualPosition, h.od⟩, h.actualVelocity, rfl, nofun⟩
  have hfollowed : s.followed.Alike t.followed := by
    unfold followed
    rw [h.newSetpoint, hedge]
    exact ⟨⟨h.setting, h.homing, h.actualPosition, h.od⟩, h.actualVelocity, h.ppActive, h.ppTargetPosition⟩
  apply Exec.agree_get_bind
  refine .when (by rw [h.enabled]) (fun _ => ?_) h
  rw [h.haltActive, h.homingReferenced, h.newSetpoint, hedge, Bool.false_and, Bool.false_and]
  split
  · exact Exec.agree_modify ((hclear false _ _).count _ _ _ _)
  · split
    · exact Exec.agree_modify (hclear false false false)
    · change Exec.Agree Alike (if s.followed.ppActive then Servo.ppMove else ppIdle)
        (if t.followed.ppActive then Servo.ppMove else ppIdle) s.followed t.followed
      rw [hfollowed.ppActive]
      split
      · rename_i hactive
        exact hfollowed.ppMove hactive
      · apply Exec.agree_modify_bind
        exact hfollowed.slowed.updateTargetReached

/-- The modes that do not follow the target. -/
theorem processMode (h : s.Alike t) {m : Int} (hmode : m ≠ 8)
    (hedge : m = 1 → s.newSetpoint = false) :
    Exec.Agree Alike (Servo.processMode m) (Servo.processMode m) s t := by
  unfold Servo.processMode
  split_ifs with h1
  · exact h.processPp (hedge h1)
  · exact h.processPv
  · exact h.processHoming
  · exact h.processJog
  · exact Exec.agree_pure () h

end Alike

end Servo

end EthercatSimulator.Behaviour
