import EthercatSimulator.Behaviour.Interruption
import EthercatSimulator.Behaviour.StatusLaws

/-! The set-point acknowledge of profile position mode, statusword bit 12. -/

namespace EthercatSimulator.Behaviour

open Base Profile Diagnostics PyFloat

namespace Servo

variable {F : Type} [PyFloat F] {s s' : Servo F}

/-- The next update runs the law of profile position mode. -/
def RunsPp (s : Servo F) : Prop :=
  s.deviceResetRequested = false ∧ s.od.int Key.modeOfOperation = 1 ∧
    s.sm.process s.controlword = .operationEnabled

/-- ... and follows set-points in it. -/
def FollowsPp (s : Servo F) : Prop :=
  s.RunsPp ∧ hasBits s.controlword 0x100 = false ∧ s.homingReferenced = true

/-- The next update sees a rising edge of controlword bit 4. -/
def SeesEdge (s : Servo F) : Prop := s.deviceResetRequested = false ∧ s.newSetpoint = true

/-- The next update latches the target of a rising edge and starts the positioning. -/
def Accepts (s : Servo F) : Prop :=
  s.FollowsPp ∧ s.newSetpoint = true ∧ s.started.positionTargetRejected = false

/-- The next update leaves a set acknowledge as it is. -/
def KeepsStaleAck (s : Servo F) : Prop := s.ppSetpointAck = true ∧ ¬ s.RunsPp

/-- The next update follows set-points while bit 4 is held high. -/
def HoldsSetpoint (s : Servo F) : Prop :=
  s.FollowsPp ∧ hasBits s.controlword 0x10 = true ∧ ¬ s.SeesEdge

instance (s : Servo F) : Decidable s.RunsPp := inferInstanceAs (Decidable (_ ∧ _))
instance (s : Servo F) : Decidable s.FollowsPp := inferInstanceAs (Decidable (_ ∧ _))
instance (s : Servo F) : Decidable s.SeesEdge := inferInstanceAs (Decidable (_ ∧ _))
instance (s : Servo F) : Decidable s.Accepts := inferInstanceAs (Decidable (_ ∧ _))
instance (s : Servo F) : Decidable s.KeepsStaleAck := inferInstanceAs (Decidable (_ ∧ _))
instance (s : Servo F) : Decidable s.HoldsSetpoint := inferInstanceAs (Decidable (_ ∧ _))

theorem started_newSetpoint_eq (h : s.deviceResetRequested = false) :
    s.started.newSetpoint = s.newSetpoint := by
  unfold newSetpoint
  rw [started_controlword, s.started_spec.previousControlword, applyOdCommands_controlword, h]
  rfl

theorem runsPp_iff : s.RunsPp ↔
    s.started.enabled = true ∧ s.started.od.int Key.modeOfOperation = 1 := by
  have hs := s.started_spec
  unfold RunsPp enabled
  rw [started_mode, applyOdCommands_mode, hs.sm, applyOdCommands_controlword, decide_eq_true_eq]
  cases hr : s.deviceResetRequested with
  | true => simp
  | false => simp [and_comm]

theorem started_ppSetpointAck (s : Servo F) : s.started.ppSetpointAck = s.ppSetpointAck :=
  congrArg Prod.fst s.started_lawful

/-! The acknowledge after the motion law. -/

omit [PyFloat F] in
theorem ackParts : MotionParts (F := F) (Exec.Fixes ppSetpointAck) :=
  ⟨fun _ _ _ => rfl, fun _ _ _ => rfl⟩

/-- What a move keeps, its end included, holds between the look for an edge and the end of the cycle. -/
theorem ppFollow_law {R : Servo F → Servo F → Prop} [Std.Refl R] [IsTrans (Servo F) R] (h : MotionParts R)
    (hend : ∀ s : Servo F, R s { s with ppActive := false }) (s : Servo F) : R s.followed (ppFollow s).2 := by
  have harrive : ∀ s : Servo F, R s s.ppArrive.writeActualFeedback := fun s =>
    IsTrans.trans _ _ _ (hend s) (h.drive _ 0 s.ppTargetPosition)
  have hadvance : ∀ (s : Servo F) (d : F), R s (s.ppAdvance d).writeActualFeedback := by
    intro s d
    obtain ⟨velocity, hs | ⟨position, hs⟩⟩ := s.ppAdvance_cases d
    · rw [hs]
      exact harrive s
    · rw [hs]
      exact h.drive s velocity position
  have hmove : (ppMove : PyM (Servo F) Unit).Keeps R := by
    refine .bind (R := R) Exec.keeps_get fun s => ?_
    split
    · exact fun s => IsTrans.trans _ _ _ (harrive s) (h.updateTargetReached _)
    · exact .bind (R := R) (Exec.keeps_ofExcept _) fun d s =>
        IsTrans.trans _ _ _ (hadvance s d) (h.updateTargetReached _)
  have hidle : (ppIdle : PyM (Servo F) Unit).Keeps R := .bind (R := R) h.slowed fun _ => h.updateTargetReached
  change ppFollow.Post s fun _ q => R s.followed q
  exact ppFollow_post (fun _ => hmove s.followed) fun _ => hidle s.followed

theorem ppFollow_ack (s : Servo F) :
    (ppFollow s).2.ppSetpointAck = hasBits s.controlword 0x10 := by
  have hfollowed : s.followed.ppSetpointAck = hasBits s.controlword 0x10 := by
    unfold followed
    dsimp only
    split <;> rfl
  exact (ppFollow_law ackParts (fun _ => rfl) s).trans hfollowed

/-- Profile position mode acknowledges the level of bit 4, wherever it follows set-points and
does not reject the edge of this very cycle. -/
theorem processPp_ack (he : s.enabled = true) : (processPp s).2.ppSetpointAck = true →
    s.haltActive = false ∧ s.homingReferenced = true ∧ hasBits s.controlword 0x10 = true ∧
      (s.newSetpoint = true → s.positionTargetRejected = false) := by
  unfold processPp
  rw [Exec.run_bind_ok (Exec.run_get _), Exec.when, if_pos he]
  split
  · exact fun h => by cases h
  · split
    · exact fun h => by cases h
    · split
      · exact fun h => by cases h
      · rename_i hhalt href hreject
        rw [ppFollow_ack]
        refine fun h => ⟨by simpa using hhalt, by simpa using href, h, fun hedge => ?_⟩
        simpa [hedge] using hreject

/-- The other modes leave the acknowledge alone. -/
theorem processMode_ack {mode : Int} (h : mode ≠ 1) :
    (processMode mode : PyM (Servo F) Unit).Keeps (Exec.Fixes ppSetpointAck) :=
  ackParts.processMode (fun hmode => absurd hmode h) fun _ => ⟨fun _ _ _ _ _ => rfl, fun _ => rfl⟩

/-- An acknowledge after an update is a stale one, or the level of bit 4 in profile position mode. -/
theorem update_ack (s : Servo F) : (modelUpdate s).2.ppSetpointAck = true →
    s.ppSetpointAck = true ∧ ¬ s.RunsPp ∨
      s.FollowsPp ∧ hasBits s.controlword 0x10 = true ∧ (s.SeesEdge → s.Accepts) := by
  refine s.modelUpdate_law (P := fun q => q.ppSetpointAck = true → _) (fun _ _ _ hq => hq) ?_
  intro hack
  by_cases hpp : s.RunsPp
  · right
    obtain ⟨he, hmode⟩ := runsPp_iff.mp hpp
    rw [hmode] at hack
    obtain ⟨hhalt, href, hbit, hedge⟩ := processPp_ack he hack
    have hcw : s.started.controlword = s.controlword := by
      rw [started_controlword, applyOdCommands_controlword, hpp.1]
      rfl
    rw [started_haltActive, hcw] at hhalt
    rw [hcw] at hbit
    rw [s.started_spec.homingReferenced] at href
    have hfollows : s.FollowsPp := ⟨hpp, hhalt, href⟩
    refine ⟨hfollows, hbit, fun hsees => ⟨hfollows, hsees.2, hedge ?_⟩⟩
    rw [started_newSetpoint_eq hsees.1, hsees.2]
  · left
    refine ⟨?_, hpp⟩
    rw [← s.started_ppSetpointAck]
    by_cases hmode : s.started.od.int Key.modeOfOperation = 1
    · have hd : s.started.enabled = false := by
        by_contra hne
        exact hpp (runsPp_iff.mpr ⟨by simpa using hne, hmode⟩)
      rwa [processMode_disabled hd] at hack
    · exact (processMode_ack hmode s.started).symm.trans hack

/-! What the statusword shows. -/

omit [PyFloat F] in
theorem hasBits_flag (condition : Bool) {bit word : Nat} (hbit : bit ≠ 0) (hword : word &&& bit = 0) :
    hasBits (flag condition bit word) bit = condition := by
  unfold hasBits flag
  cases condition with
  | true => simp [Nat.and_or_distrib_right, hword, hbit]
  | false => simp [hword]

theorem publishedStatusword_ack (s : Servo F) (mode : Int) :
    hasBits (s.publishedStatusword mode) 0x1000 = s.ppSetpointAck := by
  have hstate : flag s.targetReached 0x400 s.sm.statusword &&& 0x1000 = 0 := by
    rw [flag_and (by decide)]
    cases s.sm <;> decide
  rw [← hasBits_flag s.ppSetpointAck (by decide) hstate]
  unfold hasBits publishedStatusword
  dsimp only
  iterate 5 rw [flag_and (by decide)]

/-- What a completed update in profile position mode shows. -/
theorem update_shown (hok : (modelUpdate s).1 = .ok ()) :
    hasBits ((modelUpdate s).2.od.int Key.statusword).toNat 0x1000 = (modelUpdate s).2.ppSetpointAck ∧
      (s.RunsPp → (modelUpdate s).2.previousControlword = s.controlword ∧
        (modelUpdate s).2.od.int Key.modeOfOperation = 1 ∧ (modelUpdate s).2.enabled = true) := by
  obtain ⟨q, hdriven, hpublish, -⟩ := s.modelUpdate_post
  rw [hpublish hok]
  refine ⟨?_, fun hpp => ?_⟩
  · refine Eq.trans ?_ (q.publishedStatusword_ack (s.started.od.int Key.modeOfOperation))
    unfold publish Od.int
    rw [write_od_same]
    rfl
  · obtain ⟨he, hmode⟩ := runsPp_iff.mp hpp
    refine ⟨?_, ?_, ?_⟩
    · change s.applyOdCommands.controlword = _
      rw [applyOdCommands_controlword, hpp.1]
      rfl
    · unfold publish Od.int
      rw [write_od_of_ne _ _ (by decide)]
      exact hdriven.mode.trans hmode
    · change decide (q.sm = _) = true
      rw [hdriven.sm]
      exact he

section Run

variable (mode : AxisMode) (operations : Nat → Operation F)

/-- The servo as update `n` of a run finds it. -/
def updating (n : Nat) : Servo F := (servos mode operations n).begun (operations n)

/-- The latest rising edge of bit 4 before operation `n` was accepted. -/
def edgeAccepted : Nat → Bool
  | 0 => false
  | n + 1 =>
    if (operations n).isUpdate = true ∧ (updating mode operations n).SeesEdge then
      (updating mode operations n).Accepts
    else edgeAccepted n

end Run

/-- A frame with an update after it, and so on. -/
def pdoRun (frames : List Bytes) (n : Nat) : Operation ExtRat :=
  match frames[n / 2]? with
  | none => .rxpdo []
  | some frame => if n % 2 = 0 then .rxpdo frame else .update (.num (1 / 20))

def positionFrame (controlword mode : UInt8) (target : Bytes) : Bytes :=
  [controlword, 0x00, mode] ++ target ++ List.replicate 17 0x00

/-- Homing, then a set-point that is accepted. -/
def acceptedFrames : List Bytes :=
  let near : Bytes := [0x64, 0x00, 0x00, 0x00]
  [positionFrame 0x06 6 near, positionFrame 0x07 6 near, positionFrame 0x0f 6 near,
    positionFrame 0x1f 6 near, positionFrame 0x1f 6 near, positionFrame 0x0f 1 near,
    positionFrame 0x1f 1 near]

end Servo

end EthercatSimulator.Behaviour
