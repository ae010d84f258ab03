import EthercatSimulator.Behaviour.Servo

/-! What the parts of one servo update can change. -/

namespace EthercatSimulator.Behaviour

open Base Profile Diagnostics PyFloat

/-- The fields no motion law touches. -/
structure Setting (F : Type) where
  axisMode : AxisMode
  cycleTime : F
  sm : CiA402State
  haltActive : Bool
  previousControlword : Nat
  lastModeCommand : Int
  lastDeviceResetCommand : Int
  lastParameterSaveCommand : Int

namespace Servo

variable {F : Type} {s s' : Servo F}

def setting (s : Servo F) : Setting F where
  axisMode := s.axisMode
  cycleTime := s.cycleTime
  sm := s.sm
  haltActive := s.haltActive
  previousControlword := s.previousControlword
  lastModeCommand := s.lastModeCommand
  lastDeviceResetCommand := s.lastDeviceResetCommand
  lastParameterSaveCommand := s.lastParameterSaveCommand

@[simp] theorem write_od_same (s : Servo F) (key : Key) (v : Value F) :
    (s.write key v).od key = v := s.od.write_same key v

theorem write_od_of_ne (s : Servo F) {key key' : Key} (v : Value F) (h : key' ≠ key) :
    (s.write key v).od key' = s.od key' := s.od.write_of_ne v h

/-! `Driven`: what a motion law leaves alone, and what it needs to start a motion. -/

structure Driven (s s' : Servo F) : Prop where
  setting : s'.setting = s.setting
  od : ∀ key, key ≠ Key.targetPosition → key ≠ Key.actualPosition → key ≠ Key.actualVelocity →
    s'.od key = s.od key
  ppActive : s'.ppActive = true → s.ppActive = true ∨ s.newSetpoint = true
  homingActive : s'.homingActive = true → s.homingActive = true ∨
    s.newSetpoint = true ∧ s.od.int Key.modeOfOperation = 6
  homingReferenced : s'.homingReferenced = true →
    s.homingReferenced = true ∨ s.homingActive = true ∨ s.newSetpoint = true
  homingError : s'.homingError = true → s.homingError = true

namespace Driven

theorem refl (s : Servo F) : s.Driven s := ⟨rfl, fun _ _ _ _ => rfl, .inl, .inl, .inl, id⟩

theorem sm (h : s.Driven s') : s'.sm = s.sm := congrArg Setting.sm h.setting

theorem lastModeCommand (h : s.Driven s') : s'.lastModeCommand = s.lastModeCommand :=
  congrArg Setting.lastModeCommand h.setting

theorem previousControlword (h : s.Driven s') : s'.previousControlword = s.previousControlword :=
  congrArg Setting.previousControlword h.setting

theorem controlword (h : s.Driven s') : s'.controlword = s.controlword := by
  unfold Servo.controlword Od.int
  rw [h.od Key.controlword (by decide) (by decide) (by decide)]

theorem mode (h : s.Driven s') : s'.od.int Key.modeOfOperation = s.od.int Key.modeOfOperation := by
  unfold Od.int
  rw [h.od Key.modeOfOperation (by decide) (by decide) (by decide)]

theorem newSetpoint (h : s.Driven s') : s'.newSetpoint = s.newSetpoint := by
  unfold Servo.newSetpoint
  rw [h.controlword, h.previousControlword]

theorem trans {s'' : Servo F} (h : s.Driven s') (h' : s'.Driven s'') : s.Driven s'' where
  setting := h'.setting.trans h.setting
  od key h₁ h₂ h₃ := (h'.od key h₁ h₂ h₃).trans (h.od key h₁ h₂ h₃)
  ppActive hp := (h'.ppActive hp).elim h.ppActive fun he => .inr (h.newSetpoint ▸ he)
  homingActive hp := (h'.homingActive hp).elim h.homingActive fun he =>
    .inr ⟨h.newSetpoint ▸ he.1, h.mode ▸ he.2⟩
  homingReferenced hp := by
    rcases h'.homingReferenced hp with hr | ha | he
    · exact h.homingReferenced hr
    · exact .inr ((h.homingActive ha).imp_right And.left)
    · exact .inr (.inr (h.newSetpoint ▸ he))
  homingError := h.homingError ∘ h'.homingError

instance : Std.Refl (Driven (F := F)) := ⟨refl⟩
instance : IsTrans (Servo F) Driven := ⟨fun _ _ _ => trans⟩

theorem setVelocity (s : Servo F) (velocity : F) : s.Driven (s.setVelocity velocity) :=
  ⟨rfl, fun _ _ _ _ => rfl, .inl, .inl, .inl, id⟩

theorem setPosition (s : Servo F) (position : F) : s.Driven (s.setPosition position) :=
  ⟨rfl, fun _ _ _ _ => rfl, .inl, .inl, .inl, id⟩

theorem setTargetReached (s : Servo F) (reached : Bool) :
    s.Driven { s with targetReached := reached } := ⟨rfl, fun _ _ _ _ => rfl, .inl, .inl, .inl, id⟩

theorem setCounter (s : Servo F) (count : Int) (reached : Bool) :
    s.Driven { s with windowCounter := count, targetReached := reached } :=
  ⟨rfl, fun _ _ _ _ => rfl, .inl, .inl, .inl, id⟩

theorem countHoming (s : Servo F) (count : Int) : s.Driven { s with homingCounter := count } :=
  ⟨rfl, fun _ _ _ _ => rfl, .inl, .inl, .inl, id⟩

theorem clearPp (s : Servo F) (reached : Bool) :
    s.Driven { s with ppActive := false, ppSetpointAck := false, targetReached := reached } :=
  ⟨rfl, fun _ _ _ _ => rfl, (fun h => by cases h), .inl, .inl, id⟩

theorem writeTarget (s : Servo F) (v : Value F) : s.Driven (s.write Key.targetPosition v) :=
  ⟨rfl, fun _ h _ _ => s.write_od_of_ne v h, .inl, .inl, .inl, id⟩

theorem writeActualFeedback (s : Servo F) : s.Driven s.writeActualFeedback where
  setting := rfl
  od key _ h₂ h₃ := by
    unfold Servo.writeActualFeedback
    rw [write_od_of_ne _ _ h₃, write_od_of_ne _ _ h₂]
  ppActive := .inl
  homingActive := .inl
  homingReferenced := .inl
  homingError := id

theorem ite {c : Prop} [Decidable c] {a b : Servo F} (ha : s.Driven a) (hb : s.Driven b) :
    s.Driven (if c then a else b) := by
  split
  · exact ha
  · exact hb

variable [PyFloat F]

theorem slowed (s : Servo F) : s.Driven s.slowed :=
  ((setVelocity s _).trans (setPosition _ _)).trans (writeActualFeedback _)

theorem updateTargetReached : (Servo.updateTargetReached : PyM (Servo F) Unit).Keeps Driven := by
  apply Exec.Keeps.bind
  · exact fun s => ite (setCounter s _ _) (setCounter s _ _)
  · intro _
    refine Exec.Keeps.bind (R := Driven) Exec.keeps_get fun s => ?_
    refine Exec.Keeps.bind (R := Driven) (Exec.keeps_ofExcept _) fun n => ?_
    exact fun s => ite (setTargetReached s _) (refl s)

theorem ppHalt (s : Servo F) : s.Driven s.ppHalt :=
  ((clearPp s _).trans (slowed _)).trans (setTargetReached _ _)

theorem ppUnreferenced (s : Servo F) : s.Driven s.ppUnreferenced := (clearPp s _).trans (slowed _)

theorem ppReject (s : Servo F) : s.Driven s.ppReject := (clearPp s _).trans (slowed _)

theorem ppArrive (s : Servo F) : s.Driven s.ppArrive :=
  ⟨rfl, fun _ _ _ _ => rfl, (fun h => by cases h), .inl, .inl, id⟩

theorem ppAdvance (s : Servo F) (d : F) : s.Driven (s.ppAdvance d) := by
  unfold Servo.ppAdvance
  exact ite ((setVelocity s _).trans (ppArrive _)) ((setVelocity s _).trans (setPosition _ _))

theorem ppMove : (Servo.ppMove : PyM (Servo F) Unit).Keeps Driven := by
  refine Exec.Keeps.bind (R := Driven) Exec.keeps_get fun s => ?_
  split
  · refine Exec.Keeps.bind (R := Driven) ppArrive fun _ => ?_
    exact Exec.Keeps.bind (R := Driven) writeActualFeedback fun _ => updateTargetReached
  · refine Exec.Keeps.bind (R := Driven) (Exec.keeps_ofExcept _) fun d => ?_
    refine Exec.Keeps.bind (R := Driven) (fun s => ppAdvance s d) fun _ => ?_
    exact Exec.Keeps.bind (R := Driven) writeActualFeedback fun _ => updateTargetReached

theorem ppFollow : (Servo.ppFollow : PyM (Servo F) Unit).Keeps Driven := by
  apply Exec.Keeps.bind
  · intro s
    unfold Exec.modify
    dsimp only
    split
    · rename_i he
      exact ⟨rfl, fun _ _ _ _ => rfl, fun _ => .inr he, .inl, .inl, id⟩
    · exact ⟨rfl, fun _ _ _ _ => rfl, .inl, .inl, .inl, id⟩
  · intro _
    refine Exec.Keeps.bind (R := Driven) Exec.keeps_get fun s => ?_
    split
    · exact ppMove
    · exact Exec.Keeps.bind (R := Driven) slowed fun _ => updateTargetReached

theorem processPp : (Servo.processPp : PyM (Servo F) Unit).Keeps Driven := by
  refine Exec.Keeps.bind (R := Driven) Exec.keeps_get fun s => ?_
  apply Exec.Keeps.when
  split
  · exact ppHalt
  · split
    · exact ppUnreferenced
    · split
      · exact ppReject
      · exact ppFollow

theorem velocityStep (s : Servo F) (target accel decel : F) :
    s.Driven (s.velocityStep target accel decel).1 :=
  ((setVelocity s _).trans (setPosition _ _)).trans (writeActualFeedback _)

theorem processPv : (Servo.processPv : PyM (Servo F) Unit).Keeps Driven := by
  refine Exec.Keeps.bind (R := Driven) Exec.keeps_get fun s => ?_
  exact Exec.Keeps.when _ fun s => (velocityStep s _ _ _).trans (setTargetReached _ _)

theorem processJog : (Servo.processJog : PyM (Servo F) Unit).Keeps Driven := by
  refine Exec.Keeps.bind (R := Driven) Exec.keeps_get fun s => ?_
  exact Exec.Keeps.when _ fun s => (velocityStep s _ _ _).trans (setTargetReached _ _)

theorem processCsp : (Servo.processCsp : PyM (Servo F) Unit).Keeps Driven := by
  refine Exec.Keeps.bind (R := Driven) Exec.keeps_get fun s => ?_
  apply Exec.Keeps.when
  split
  · exact fun s => (slowed s).trans (setTargetReached _ _)
  · split
    · exact fun s => (setTargetReached s _).trans (slowed _)
    · refine Exec.Keeps.bind (R := Driven) (fun s => ?_) fun _ => updateTargetReached
      exact ((setVelocity s _).trans (setPosition _ _)).trans (writeActualFeedback _)

theorem restartHoming (s : Servo F) (count : Int) : s.Driven { s with
    homingCounter := count, homingReferenced := false, homingError := false, actualVelocity := 0 } :=
  ⟨rfl, fun _ _ _ _ => rfl, .inl, .inl, (fun h => by cases h), fun h => by cases h⟩

theorem startHoming {s : Servo F} (h : s.newSetpoint = true)
    (hmode : s.od.int Key.modeOfOperation = 6) :
    (Servo.startHoming : PyM (Servo F) Unit).Post s fun _ s' => s.Driven s' := by
  have hactive : s.Driven { s with homingActive := true } :=
    ⟨rfl, fun _ _ _ _ => rfl, .inl, fun _ => .inr ⟨h, hmode⟩, .inl, id⟩
  apply Exec.post_modify_bind
  apply Exec.post_get_bind
  apply Exec.Post.bind
  · apply Exec.post_ofExcept
    intro count _
    exact ((hactive.trans (restartHoming _ count)).trans (writeActualFeedback _)).trans
      (setTargetReached _ _)
  · apply Exec.post_ofExcept
    intro e _
    exact hactive

theorem finishHoming {s : Servo F} (h : s.homingActive = true) : s.Driven s.finishHoming := by
  have hwritten := (((setPosition s 0).trans (setVelocity _ 0)).trans (writeTarget _ (.float 0))).trans
    (writeActualFeedback _)
  exact ⟨rfl, hwritten.od, .inl, (fun h => by cases h), (fun _ => .inr (.inl h)), id⟩

theorem advanceHoming (s : Servo F) : s.Driven s.advanceHoming := by
  unfold Servo.advanceHoming
  split
  · exact refl s
  · rename_i hactive
    have hactive : s.homingActive = true := by simpa using hactive
    exact ite (countHoming s _) ((countHoming s _).trans (finishHoming hactive))

theorem processHoming {s : Servo F} (hmode : s.od.int Key.modeOfOperation = 6) :
    Servo.processHoming.Post s fun _ s' => s.Driven s' := by
  apply Exec.post_get_bind
  apply Exec.post_when
  · intro _
    apply Exec.Post.bind
    · apply Exec.post_when
      · intro h
        apply (startHoming h hmode).mono
        exact fun _ s' hs _ _ => hs.trans (advanceHoming s')
      · exact fun _ _ _ => advanceHoming s
    · apply Exec.post_when
      · intro h
        apply (startHoming h hmode).mono
        exact fun _ s' hs _ _ => hs
      · exact fun _ _ _ => refl s
  · exact fun _ => refl s

theorem processMode {s : Servo F} {mode : Int} (hmode : s.od.int Key.modeOfOperation = mode) :
    (Servo.processMode mode).Post s fun _ s' => s.Driven s' := by
  subst hmode
  unfold Servo.processMode
  split_ifs with _ _ _ hhoming
  · exact processPp s
  · exact processPv s
  · exact processCsp s
  · exact processHoming hhoming
  · exact processJog s
  · exact refl s

end Driven

/-- A positioning goes on or arrives. -/
theorem ppAdvance_cases [PyFloat F] (s : Servo F) (d : F) :
    ∃ velocity, s.ppAdvance d = (s.setVelocity velocity).ppArrive ∨
      ∃ position, s.ppAdvance d = (s.setVelocity velocity).setPosition position := by
  unfold ppAdvance
  dsimp only
  exact ⟨_, (ite_eq_or_eq _ _ _).imp_right fun h => ⟨_, h⟩⟩

/-- The servo once profile position mode has looked for an edge. -/
def followed [PyFloat F] (s : Servo F) : Servo F :=
  let s := if s.newSetpoint then s.ppLatch else s
  { s with ppSetpointAck := hasBits s.controlword 0x10 }

/-- Without a positioning under way the drive slows down. -/
def ppIdle [PyFloat F] : PyM (Servo F) Unit := do
  Exec.modify slowed
  updateTargetReached

theorem ppFollow_post [PyFloat F] {s : Servo F} {Q : Except Exc Unit → Servo F → Prop}
    (hmove : s.followed.ppActive = true → ppMove.Post s.followed Q)
    (hidle : s.followed.ppActive = false → ppIdle.Post s.followed Q) : ppFollow.Post s Q := by
  change (if s.followed.ppActive then ppMove else ppIdle).Post s.followed Q
  cases h : s.followed.ppActive with
  | true => exact hmove h
  | false => exact hidle h

/-- What setting the flag and the counter keeps holds after the window has been looked at. -/
theorem updateTargetReached_post [PyFloat F] {P : Servo F → Prop}
    (hcount : ∀ q : Servo F, ∀ reached counter, P q →
      P { q with targetReached := reached, windowCounter := counter }) (h : P s) :
    updateTargetReached.Post s fun _ q => P q := by
  have hite : ∀ {c : Prop} [Decidable c] {a b : Servo F}, P a → P b → P (if c then a else b) := by
    intro c _ a b ha hb
    split
    · exact ha
    · exact hb
  have hwindow : P (if s.isInPosition then { s with windowCounter := s.windowCounter + 1 }
      else { s with windowCounter := 0, targetReached := false }) :=
    hite (hcount s s.targetReached (s.windowCounter + 1) h) (hcount s false 0 h)
  apply Exec.post_modify_bind
  apply Exec.post_get_bind
  apply Exec.Post.bind
  · apply Exec.post_ofExcept
    intro n _
    exact hite (hcount _ true _ hwindow) hwindow
  · apply Exec.post_ofExcept
    intro e _
    exact hwindow

/-! What the motion laws are made of: a relation that every part respects is respected by the
law of a mode. -/

structure MotionParts (R : Servo F → Servo F → Prop) : Prop where
  drive : ∀ (s : Servo F) velocity position,
    R s { s with actualVelocity := velocity, actualPosition := position }.writeActualFeedback
  count : ∀ s reached counter, R s { s with targetReached := reached, windowCounter := counter }

/-- ... and what profile position mode and homing add. -/
structure PpParts (R : Servo F → Servo F → Prop) : Prop where
  follow : ∀ s active ack target,
    R s { s with ppActive := active, ppSetpointAck := ack, ppTargetPosition := target }

structure HomingParts [Zero F] (R : Servo F → Servo F → Prop) : Prop where
  home : ∀ s active counter referenced error, R s { s with
    homingActive := active, homingCounter := counter, homingReferenced := referenced
    homingError := error }
  target : ∀ s : Servo F, R s (s.write Key.targetPosition (.float 0))

namespace MotionParts

variable [PyFloat F] {R : Servo F → Servo F → Prop} [Std.Refl R] [IsTrans (Servo F) R]

omit [PyFloat F] [Std.Refl R] [IsTrans (Servo F) R] in
theorem ite {c : Prop} [Decidable c] {a b : Servo F} (ha : R s a) (hb : R s b) :
    R s (if c then a else b) := by
  split
  · exact ha
  · exact hb

omit [PyFloat F] [Std.Refl R] in
theorem reached (h : MotionParts R) {a : Servo F} (ha : R s a) (reached : Bool) :
    R s { a with targetReached := reached } :=
  IsTrans.trans _ _ _ ha (h.count a reached a.windowCounter)

omit [Std.Refl R] [IsTrans (Servo F) R] in
theorem slowed (h : MotionParts R) (s : Servo F) : R s s.slowed := h.drive s _ _

omit [Std.Refl R] [IsTrans (Servo F) R] in
theorem velocityStep (h : MotionParts R) (s : Servo F) (target accel decel : F) :
    R s (s.velocityStep target accel decel).1 := h.drive s _ _

theorem updateTargetReached (h : MotionParts R) :
    (Servo.updateTargetReached : PyM (Servo F) Unit).Keeps R := by
  refine .bind (fun s => ite (h.count s _ _) (h.count s _ _)) fun _ => ?_
  refine .bind (R := R) Exec.keeps_get fun s => .bind (Exec.keeps_ofExcept _) fun n s => ?_
  exact ite (h.count s _ _) (refl (r := R) s)

theorem processPp (h : MotionParts R) (hpp : PpParts R) :
    (Servo.processPp : PyM (Servo F) Unit).Keeps R := by
  have hclear : ∀ (s : Servo F) (reached : Bool), R s
      { s with ppActive := false, ppSetpointAck := false, targetReached := reached } := fun s reached =>
    h.reached (hpp.follow s false false s.ppTargetPosition) reached
  have harrive : ∀ s : Servo F, R s s.ppArrive.writeActualFeedback := fun s =>
    IsTrans.trans _ _ _ (hpp.follow s false s.ppSetpointAck s.ppTargetPosition)
      (h.drive _ 0 s.ppTargetPosition)
  have hadvance : ∀ (s : Servo F) (d : F), R s (s.ppAdvance d).writeActualFeedback := by
    intro s d
    obtain ⟨velocity, hs | ⟨position, hs⟩⟩ := s.ppAdvance_cases d
    · rw [hs]
      exact harrive s
    · rw [hs]
      exact h.drive s velocity position
  have hmove : (Servo.ppMove : PyM (Servo F) Unit).Keeps R := by
    refine .bind (R := R) Exec.keeps_get fun s => ?_
    split
    · exact fun s => IsTrans.trans _ _ _ (harrive s) (h.updateTargetReached _)
    · exact .bind (R := R) (Exec.keeps_ofExcept _) fun d s =>
        IsTrans.trans _ _ _ (hadvance s d) (h.updateTargetReached _)
  have hfollow : (Servo.ppFollow : PyM (Servo F) Unit).Keeps R := by
    refine .bind (R := R) (fun s => ?_) fun _ => .bind Exec.keeps_get fun s => ?_
    · have hlatch : R s s.ppLatch := IsTrans.trans _ _ _
        (hpp.follow s true s.ppSetpointAck (s.od.real Key.targetPosition)) (h.count _ false 0)
      have hedge : R s (if s.newSetpoint then s.ppLatch else s) := ite hlatch (refl (r := R) s)
      exact IsTrans.trans _ _ _ hedge (hpp.follow _ _ _ _)
    · split
      · exact hmove
      · exact .bind (R := R) h.slowed fun _ => h.updateTargetReached
  refine .bind (R := R) Exec.keeps_get fun s => .when _ ?_
  split
  · intro s
    have hhalted : R s ({ s with ppActive := false, ppSetpointAck := false } : Servo F).slowed :=
      IsTrans.trans _ _ _ (hclear s s.targetReached) (h.slowed _)
    exact h.reached hhalted _
  · split
    · exact fun s => IsTrans.trans _ _ _ (hclear s false) (h.slowed _)
    · split
      · exact fun s => IsTrans.trans _ _ _ (hclear s s.targetReached) (h.slowed _)
      · exact hfollow

theorem processCsp (h : MotionParts R) : (Servo.processCsp : PyM (Servo F) Unit).Keeps R := by
  refine .bind (R := R) Exec.keeps_get fun s => .when _ ?_
  split
  · exact fun s => h.reached (h.slowed s) _
  · split
    · exact fun s => IsTrans.trans _ _ _ (h.reached (refl (r := R) s) false) (h.slowed _)
    · exact .bind (R := R) (fun s => h.drive s _ _) fun _ => h.updateTargetReached

theorem processHoming (h : MotionParts R) (hhoming : HomingParts R) :
    (Servo.processHoming : PyM (Servo F) Unit).Keeps R := by
  have hactivate : ∀ s : Servo F, R s { s with homingActive := true } := fun s =>
    hhoming.home s true s.homingCounter s.homingReferenced s.homingError
  have hstart : (Servo.startHoming : PyM (Servo F) Unit).Keeps R := by
    refine .bind (R := R) hactivate fun _ => .bind Exec.keeps_get fun s =>
      .bind (Exec.keeps_ofExcept _) fun count s => ?_
    have hreset := IsTrans.trans _ _ _ (hhoming.home s s.homingActive count false false)
      (h.drive _ 0 s.actualPosition)
    exact h.reached hreset false
  have hfinish : ∀ s : Servo F, R s s.finishHoming := by
    intro s
    have hwritten := IsTrans.trans _ _ _ (hhoming.target s) (h.drive _ 0 0)
    exact IsTrans.trans _ _ _ (h.reached hwritten true) (hhoming.home _ false s.homingCounter true
      s.homingError)
  have hadvance : ∀ s : Servo F, R s s.advanceHoming := by
    intro s
    have hcount : R s { s with homingCounter := s.homingCounter - 1 } :=
      hhoming.home s s.homingActive (s.homingCounter - 1) s.homingReferenced s.homingError
    unfold advanceHoming
    exact ite (refl (r := R) s) (ite hcount (IsTrans.trans _ _ _ hcount (hfinish _)))
  exact .bind (R := R) Exec.keeps_get fun s => .when _ (.bind (.when _ hstart) fun _ => hadvance)

theorem processMode (h : MotionParts R) {mode : Int} (hpp : mode = 1 → PpParts R)
    (hhoming : mode = 6 → HomingParts R) : (Servo.processMode mode : PyM (Servo F) Unit).Keeps R := by
  unfold Servo.processMode
  split_ifs with hmode _ _ hmode
  · exact h.processPp (hpp hmode)
  · refine .bind (R := R) Exec.keeps_get fun s => .when _ fun s => ?_
    exact h.reached (h.velocityStep s _ _ _) _
  · exact h.processCsp
  · exact h.processHoming (hhoming hmode)
  · refine .bind (R := R) Exec.keeps_get fun s => .when _ fun s => ?_
    exact h.reached (h.velocityStep s _ _ _) _
  · exact Exec.keeps_pure ()

end MotionParts

/-- No motion law runs while the drive is not enabled. -/
theorem processMode_disabled [PyFloat F] {s : Servo F} (h : s.enabled = false) (mode : Int) :
    processMode mode s = (.ok (), s) := by
  unfold processMode processPp processPv processCsp processHoming processJog
  split_ifs <;> simp [Exec.run_bind, Exec.when, h] <;> rfl

end Servo

end EthercatSimulator.Behaviour
