import EthercatSimulator.Adapter.FKrCmmtLaws
import EthercatSimulator.Behaviour.Interruption

/-! Disable voltage and quick stop: which of their controlwords take the drive out of operation. -/

namespace EthercatSimulator.Behaviour.CiA402State

/-- Disable voltage, or quick stop. -/
def RemovesVoltage (controlword : Nat) : Prop :=
  controlword &&& 0x80 = 0 ∧
    (controlword &&& 0x02 = 0 ∨ controlword &&& 0x02 ≠ 0 ∧ controlword &&& 0x04 = 0)

instance (controlword : Nat) : Decidable (RemovesVoltage controlword) :=
  inferInstanceAs (Decidable (_ ∧ _))

/-- No such word is an enable operation, disable operation or shutdown command. -/
theorem RemovesVoltage.and_ne {controlword mask value : Nat} (h : RemovesVoltage controlword)
    (hmask : mask &&& 0x02 = 0x02 ∧ mask &&& 0x04 = 0x04)
    (hvalue : value &&& 0x02 ≠ 0 ∧ value &&& 0x04 ≠ 0) : controlword &&& mask ≠ value := by
  rintro rfl
  rw [Nat.and_assoc, Nat.and_assoc, hmask.1, hmask.2] at hvalue
  rcases h.2 with h | ⟨_, h⟩
  · exact hvalue.1 h
  · exact hvalue.2 h

/-- The drive stays enabled through every such word in which one of bits 0 to 2 is set. -/
theorem process_removesVoltage {controlword : Nat} (h : RemovesVoltage controlword)
    (state : CiA402State) : state.process controlword = operationEnabled ↔
      state = operationEnabled ∧ controlword &&& 0x87 ≠ 0 := by
  have hdisable : controlword &&& 0x8F ≠ 0x07 := h.and_ne (by decide) (by decide)
  have henable : controlword &&& 0x8F ≠ 0x0F := h.and_ne (by decide) (by decide)
  have hshutdown : controlword &&& 0x87 ≠ 0x06 := h.and_ne (by decide) (by decide)
  unfold process
  rw [if_neg (not_not.mpr h.1)]
  by_cases hzero : controlword &&& 0x87 = 0
  · simp [hzero]
  · cases state <;> simp [hzero, hdisable, henable, hshutdown]

end EthercatSimulator.Behaviour.CiA402State

namespace EthercatSimulator.FKr

open Base Profile Diagnostics Behaviour Adapter CiA402State
open FKrCmmt (framed updated)

variable {F : Type} [PyFloat F]

/-- A complete frame and the update that takes it up. -/
theorem operate_frame (s : Servo F) {payload : Bytes} (hlen : payload.length = rxSize) (dt : F) :
    (s.operate (.rxpdo payload)).operate (.update dt) = updated s payload dt := by
  have hwritten : (rxpdoPayloadToOd payload s.od).2 = s.od.writeAll (FKrCmmt.commands payload) := by
    rw [FKrCmmt.rxpdoPayloadToOd_ok hlen]
  unfold updated framed
  rw [← hwritten]
  rfl

theorem updated_enabled_iff (s : Servo F) {payload : Bytes}
    (hword : RemovesVoltage (firstWord payload)) (dt : F) : (updated s payload dt).enabled = true ↔
      s.enabled = true ∧ s.deviceResetRequested = false ∧ firstWord payload &&& 0x87 ≠ 0 := by
  have hreset : (framed s payload dt).deviceResetRequested = s.deviceResetRequested := rfl
  unfold Servo.enabled
  rw [FKrCmmt.updated_sm, hreset, decide_eq_true_eq, decide_eq_true_eq]
  cases hr : s.deviceResetRequested with
  | true => simp
  | false => simp [process_removesVoltage hword]

/-- A disable voltage or quick stop word stops the drive where it is, unless the drive is enabled,
no device reset is pending and one of bits 0 to 2 is set: then the drive stays enabled. -/
theorem voltage_removed (mode : AxisMode) (operations : Nat → Operation F) (n : Nat)
    {payload : Bytes} (hlen : payload.length = rxSize) (hword : RemovesVoltage (firstWord payload))
    (dt : F) :
    let s := Servo.servos mode operations n
    let s' := (s.operate (.rxpdo payload)).operate (.update dt)
    (s'.enabled = false ∧ s'.actualVelocity = 0 ∧ s'.actualPosition = s.actualPosition) ↔
      ¬ (s.enabled = true ∧ s.deviceResetRequested = false ∧ firstWord payload &&& 0x87 ≠ 0) := by
  intro s s'
  have hs' : s' = updated s payload dt := operate_frame s hlen dt
  rw [hs', ← updated_enabled_iff s hword dt]
  constructor
  · rintro ⟨hd, -⟩ he
    rw [hd] at he
    cases he
  · intro he
    rw [Bool.not_eq_true] at he
    have hsettled : (framed s payload dt).Settled :=
      FKrCmmt.framed_settled (Servo.servos_settled mode operations n)
    have hstarted : (framed s payload dt).started.enabled = false := by
      obtain ⟨q, hdriven, hpublished⟩ := (framed s payload dt).modelUpdate_published
      unfold updated Servo.enabled at he
      rw [hpublished.sm, hdriven.sm] at he
      exact he
    refine ⟨he, (Servo.update_settled hsettled).actualVelocity he, ?_⟩
    unfold updated
    rw [Servo.modelUpdate_disabled _ hstarted]
    exact (framed s payload dt).started_spec.actualPosition

/-- Enable the drive, step by step. -/
def enablingRun (n : Nat) : Operation ExtRat :=
  if n % 2 = 1 then .update (.num (1 / 100))
  else
    let controlword : UInt8 := match n / 2 with
      | 0 => 0x06
      | 1 => 0x07
      | _ => 0x0f
    .rxpdo ([controlword, 0x00, 0x03] ++ List.replicate 21 0x00)

/-- Disable voltage with bits 0, 2 and 3 set, and quick stop with bits 0, 1 and 3 set. -/
theorem voltage_ignored :
    let s := Servo.servos .linear enablingRun 6
    let frame (controlword : UInt8) : Bytes := [controlword, 0x00, 0x03] ++ List.replicate 21 0x00
    let after controlword := (s.operate (.rxpdo (frame controlword))).operate (.update (.num (1 / 100)))
    RemovesVoltage (firstWord (frame 0x0d)) ∧ (after 0x0d).enabled = true ∧
      RemovesVoltage (firstWord (frame 0x0b)) ∧ (after 0x0b).enabled = true := by
  decide +kernel

/-- The same words reach a drive that is not enabled. -/
theorem voltage_removed_initial :
    let s := (Servo.construct .linear : Servo ExtRat)
    let payload : Bytes := [0x0d, 0x00, 0x03] ++ List.replicate 21 0x00
    let s' := (s.operate (.rxpdo payload)).operate (.update (.num (1 / 100)))
    s'.enabled = false ∧ s'.actualVelocity = 0 ∧ s'.actualPosition = s.actualPosition :=
  (voltage_removed .linear enablingRun 0 rfl (by decide) _).mpr (by decide +kernel)

end EthercatSimulator.FKr
