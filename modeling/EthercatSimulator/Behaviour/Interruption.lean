import EthercatSimulator.Base.Run
import EthercatSimulator.Behaviour.UpdateLaws
import Mathlib.Tactic.IntervalCases

/-! Losing Operation Enabled: what of a motion command survives it. -/

namespace EthercatSimulator.Behaviour

open Base Profile Diagnostics PyFloat

/-- What the surroundings of the servo do to it. -/
inductive Operation (F : Type)
  | rxpdo (payload : Bytes)
  | sdo (key : Key) (payload : Bytes)
  | update (dt : F)

def Operation.isUpdate {F : Type} : Operation F → Bool
  | .update _ => true
  | .rxpdo _ | .sdo _ _ => false

namespace Servo

variable {F : Type} [PyFloat F]

/-- A refused write leaves what it had written before it was refused. -/
def operate (s : Servo F) : Operation F → Servo F
  | .rxpdo payload => { s with od := (rxpdoPayloadToOd payload s.od).2 }
  | .sdo key payload =>
    match bridgeWriteSdo s.od key payload with
    | .ok od => { s with od := od }
    | .error _ => s
  | .update dt => (modelUpdate { s with cycleTime := dt }).2

/-- The servo as an update finds it. -/
def begun (s : Servo F) : Operation F → Servo F
  | .update dt => { s with cycleTime := dt }
  | .rxpdo _ | .sdo _ _ => s

theorem operate_update (s : Servo F) {op : Operation F} (h : op.isUpdate = true) :
    s.operate op = (modelUpdate (s.begun op)).2 := by
  cases op with
  | rxpdo | sdo => cases h
  | update dt => rfl

/-- The next update takes the drive out of Operation Enabled in the middle of a homing run and
leaves it in homing mode, or resets the device. -/
def InterruptsHoming (s : Servo F) : Prop :=
  s.homingActive = true ∧ s.enabled = true ∧
    (s.deviceResetRequested = true ∨
      s.od.int Key.modeOfOperation = 6 ∧ s.sm.process s.controlword ≠ .operationEnabled)

/-- No motion command is under way. -/
structure Halted (s : Servo F) : Prop where
  actualVelocity : s.actualVelocity = 0
  ppActive : s.ppActive = false
  homingActive : s.homingActive = false

structure Interruptible (s : Servo F) : Prop extends Settled s where
  disabled : s.enabled = false → s.homingActive = false
  homing : s.homingActive = true → s.lastModeCommand = 6

variable {s s' : Servo F} {op : Operation F}

theorem construct_interruptible (mode : AxisMode) : (construct mode : Servo F).Interruptible :=
  ⟨construct_settled mode, fun _ => rfl, nofun⟩

theorem Interruptible.halted (h : s.Interruptible) (hd : s.enabled = false) : s.Halted :=
  ⟨h.actualVelocity hd, h.ppActive hd, h.disabled hd⟩

/-- A write reaches the dictionary and nothing else. -/
theorem operate_write (h : op.isUpdate = false) : ∃ od, s.operate op = { s with od := od } := by
  cases op with
  | rxpdo payload => exact ⟨_, rfl⟩
  | sdo key payload =>
    unfold operate
    dsimp only
    split
    · exact ⟨_, rfl⟩
    · exact ⟨s.od, rfl⟩
  | update dt => cases h

/-- Without an interruption, a homing run that is still active is in homing mode and enabled. -/
theorem started_homing (h : s.Interruptible) (hq : ¬ s.InterruptsHoming)
    (ha : s.started.homingActive = true) :
    s.started.lastModeCommand = 6 ∧ s.started.enabled = true := by
  have hs := s.started_spec
  rw [hs.homingActive, applyOdCommands_homingActive, Bool.and_eq_true, decide_eq_true_eq] at ha
  have henabled : s.enabled = true := by
    by_contra hne
    rw [Bool.not_eq_true] at hne
    rw [h.disabled hne] at ha
    cases ha.1
  have hreset : ¬ s.deviceResetRequested = true := fun hr => hq ⟨ha.1, henabled, .inl hr⟩
  have hmode : s.od.int Key.modeOfOperation = 6 := by
    rcases ha.2 with hr | hlast | h6
    · exact absurd hr hreset
    · exact hlast.trans (h.homing ha.1)
    · exact h6
  refine ⟨?_, ?_⟩
  · rw [hs.lastModeCommand, applyOdCommands_mode, if_neg hreset, hmode]
  · have hprocess : s.sm.process s.controlword = .operationEnabled := by
      by_contra hp
      exact hq ⟨ha.1, henabled, .inr ⟨hmode, hp⟩⟩
    unfold enabled
    rw [hs.sm, applyOdCommands_controlword, if_neg hreset, hprocess]
    rfl

/-- Commands and the state machine do not start a motion; the motion law needs an edge. -/
theorem update_interruptible (h : s.Interruptible) (hq : ¬ s.InterruptsHoming) :
    (modelUpdate s).2.Interruptible := by
  refine ⟨update_settled h.toSettled, ?_, ?_⟩
  · intro hd
    cases he : s.started.enabled with
    | false =>
      rw [modelUpdate_disabled s he]
      change s.started.homingActive = false
      by_contra hne
      have := (started_homing h hq (by simpa using hne)).2
      rw [he] at this
      cases this
    | true =>
      obtain ⟨q, hdriven, hpublished⟩ := s.modelUpdate_published
      unfold enabled at he hd
      rw [hpublished.sm, hdriven.sm, he] at hd
      cases hd
  · intro ha
    obtain ⟨q, hdriven, hpublished⟩ := s.modelUpdate_published
    rw [hpublished.lastModeCommand, hdriven.lastModeCommand]
    rw [hpublished.homingActive] at ha
    rcases hdriven.homingActive ha with hp | ⟨_, hmode⟩
    · exact (started_homing h hq hp).1
    · rw [s.started_spec.lastModeCommand, ← started_mode, hmode]

theorem operate_interruptible (h : s.Interruptible)
    (hq : op.isUpdate = true → ¬ s.InterruptsHoming) : (s.operate op).Interruptible := by
  cases hop : op.isUpdate with
  | false =>
    obtain ⟨od, hwrite⟩ := operate_write (s := s) hop
    rw [hwrite]
    exact ⟨⟨h.actualVelocity, h.ppActive⟩, h.disabled, h.homing⟩
  | true =>
    cases op with
    | rxpdo | sdo => cases hop
    | update dt =>
      have hbefore : Interruptible { s with cycleTime := dt } :=
        ⟨⟨h.actualVelocity, h.ppActive⟩, h.disabled, h.homing⟩
      exact update_interruptible hbefore (hq rfl)

/-- An interrupted homing run is still active when the drive is disabled. -/
theorem update_of_interrupts (h : s.InterruptsHoming) :
    (modelUpdate s).2.enabled = false ∧ (modelUpdate s).2.homingActive = true := by
  obtain ⟨ha, _, hcause⟩ := h
  have hs := s.started_spec
  have hd : s.started.enabled = false := by
    unfold enabled
    rw [hs.sm, applyOdCommands_controlword]
    rcases hcause with hr | ⟨_, hp⟩
    · simp [hr]
    · split_ifs
      · simp
      · simpa using hp
  have hactive : s.started.homingActive = true := by
    rw [hs.homingActive, applyOdCommands_homingActive, ha, Bool.true_and, decide_eq_true_eq]
    exact hcause.imp_right fun hp => .inr hp.1
  rw [modelUpdate_disabled s hd]
  exact ⟨hd, hactive⟩

/-- After a loss no command comes back without an edge. -/
structure Quiet (reference s : Servo F) : Prop where
  ppActive : s.ppActive = false
  homingActive : s.homingActive = false
  homingReferenced : s.homingReferenced = true → reference.homingReferenced = true

theorem started_newSetpoint (h : s.newSetpoint = false) : s.started.newSetpoint = false := by
  unfold newSetpoint at h ⊢
  rw [started_controlword, s.started_spec.previousControlword, applyOdCommands_controlword]
  split_ifs
  · rfl
  · exact h

theorem update_quiet {reference : Servo F} (h : reference.Quiet s) (he : s.newSetpoint = false) :
    reference.Quiet (modelUpdate s).2 := by
  have hs := s.started_spec
  have hedge := started_newSetpoint he
  have hpp : s.started.ppActive = false := by
    by_contra hne
    have := hs.ppActive (by simpa using hne)
    rw [h.ppActive] at this
    cases this
  have hhoming : s.started.homingActive = false := by
    rw [hs.homingActive, applyOdCommands_homingActive, h.homingActive, Bool.false_and]
  obtain ⟨q, hdriven, hpublished⟩ := s.modelUpdate_published
  refine ⟨?_, ?_, ?_⟩
  · rw [hpublished.ppActive]
    by_contra hne
    rcases hdriven.ppActive (by simpa using hne) with hp | hp
    · rw [hpp] at hp; cases hp
    · rw [hedge] at hp; cases hp
  · rw [hpublished.homingActive]
    by_contra hne
    rcases hdriven.homingActive (by simpa using hne) with hp | ⟨hp, _⟩
    · rw [hhoming] at hp; cases hp
    · rw [hedge] at hp; cases hp
  · intro hr
    rw [hpublished.homingReferenced] at hr
    rcases hdriven.homingReferenced hr with hp | hp | hp
    · exact h.homingReferenced (hs.homingReferenced ▸ hp)
    · rw [hhoming] at hp; cases hp
    · rw [hedge] at hp; cases hp

theorem operate_quiet {reference : Servo F} (h : reference.Quiet s)
    (he : op.isUpdate = true → s.newSetpoint = false) : reference.Quiet (s.operate op) := by
  cases hop : op.isUpdate with
  | false =>
    obtain ⟨od, hwrite⟩ := operate_write (s := s) hop
    rw [hwrite]
    exact ⟨h.ppActive, h.homingActive, h.homingReferenced⟩
  | true =>
    cases op with
    | rxpdo | sdo => cases hop
    | update dt =>
      have hbefore : reference.Quiet { s with cycleTime := dt } :=
        ⟨h.ppActive, h.homingActive, h.homingReferenced⟩
      exact update_quiet hbefore (he rfl)

/-- The operations of a run, one after the other. -/
def servos (mode : AxisMode) (operations : Nat → Operation F) : Nat → Servo F :=
  runOf operate (construct mode) operations

theorem servos_settled (mode : AxisMode) (operations : Nat → Operation F) (n : Nat) :
    (servos mode operations n).Settled := by
  apply runOf.invariant Servo.operate _ _ Servo.Settled (construct_settled mode)
  intro s op hs
  cases hop : op.isUpdate with
  | false =>
    obtain ⟨od, hwrite⟩ := operate_write (s := s) hop
    rw [hwrite]
    exact ⟨hs.actualVelocity, hs.ppActive⟩
  | true =>
    cases op with
    | rxpdo | sdo => cases hop
    | update dt => exact update_settled (s := { s with cycleTime := dt }) ⟨hs.1, hs.2⟩

/-- No update interrupts a homing run exactly if every update that ends without Operation
Enabled leaves no motion command under way; and then, after a loss, neither the positioning nor
the homing comes back, and no reference appears, before a new edge of controlword bit 4. -/
theorem interruption (mode : AxisMode) (operations : Nat → Operation F) :
    let servo := servos mode operations
    (∀ n, (operations n).isUpdate = true → ¬ (servo n).InterruptsHoming) ↔
      (∀ n, (operations n).isUpdate = true → (servo (n + 1)).enabled = false →
        (servo (n + 1)).Halted) ∧
      ∀ i n, i ≤ n → (servo i).enabled = false →
        (∀ j, i ≤ j → j < n → (operations j).isUpdate = true → (servo j).newSetpoint = false) →
        (servo i).Quiet (servo n) := by
  intro servo
  constructor
  · intro hq
    have hinv : ∀ n, (servo n).Interruptible := by
      intro n
      induction n with
      | zero => exact construct_interruptible mode
      | succ n ih => exact operate_interruptible ih (hq n)
    refine ⟨fun n _ => (hinv (n + 1)).halted, ?_⟩
    intro i n hn hd hedge
    induction n, hn using Nat.le_induction with
    | base =>
      have hhalted := (hinv i).halted hd
      exact ⟨hhalted.ppActive, hhalted.homingActive, id⟩
    | succ n hn ih =>
      exact operate_quiet (ih fun j hi hj => hedge j hi (by omega)) (hedge n hn (by omega))
  · rintro ⟨hhalted, _⟩ n hop hinterrupt
    cases hn : operations n with
    | rxpdo | sdo => rw [hn] at hop; cases hop
    | update dt =>
      have hservo : servo (n + 1) = (modelUpdate { servo n with cycleTime := dt }).2 := by
        change (servo n).operate (operations n) = _
        rw [hn]
        rfl
      have hlost := update_of_interrupts (s := { servo n with cycleTime := dt }) hinterrupt
      rw [← hservo] at hlost
      have := (hhalted n hop hlost.1).homingActive
      rw [hlost.2] at this
      cases this

/-- Enable in homing mode, start the run, take the voltage away, enable again. -/
def homingRun (n : Nat) : Operation ExtRat :=
  if n % 2 = 1 then .update (.num (1 / 20))
  else
    let controlword : UInt8 :=
      match n / 2 with
      | 0 | 5 => 0x06
      | 1 | 6 => 0x07
      | 3 => 0x1f
      | 4 => 0x00
      | _ => 0x0f
    .rxpdo ([controlword, 0x00, 0x06] ++ List.replicate 21 0x00)

/-- The interrupted run goes on as soon as the drive is enabled again. -/
theorem homing_survives_loss :
    let servo := servos .linear homingRun
    (servo 8).enabled = true ∧ (servo 10).enabled = false ∧ (servo 10).homingActive = true ∧
      (∀ j, 10 ≤ j → j < 16 → (servo j).newSetpoint = false) ∧
      (servo 10).homingReferenced = false ∧ (servo 16).homingReferenced = true := by
  intro servo
  refine ⟨by decide +kernel, by decide +kernel, by decide +kernel, ?_, by decide +kernel,
    by decide +kernel⟩
  intro j hi hj
  interval_cases j <;> decide +kernel

end Servo

end EthercatSimulator.Behaviour
