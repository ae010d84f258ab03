import Mathlib.Data.Nat.Bitwise
import Mathlib.Tactic.SplitIfs

/-! The CiA 402 state machine of the virtual servo. -/

namespace EthercatSimulator.Behaviour

inductive CiA402State
  | switchOnDisabled | readyToSwitchOn | switchedOn | operationEnabled | fault
  deriving DecidableEq

namespace CiA402State

/-- The source tests the reset bit and the zero word again in the single states; both are dealt
with before. -/
def process (state : CiA402State) (controlword : Nat) : CiA402State :=
  if controlword &&& 0x0080 ≠ 0 then
    if state = fault then switchOnDisabled else state
  else if controlword &&& 0x0087 = 0x0000 then switchOnDisabled
  else match state with
    | switchOnDisabled =>
      if controlword &&& 0x0087 = 0x0006 then readyToSwitchOn else switchOnDisabled
    | readyToSwitchOn =>
      if controlword &&& 0x008F = 0x0007 then switchedOn else readyToSwitchOn
    | switchedOn =>
      if controlword &&& 0x008F = 0x000F then operationEnabled
      else if controlword &&& 0x0087 = 0x0006 then readyToSwitchOn
      else switchedOn
    | operationEnabled =>
      if controlword &&& 0x008F = 0x0007 then switchedOn
      else if controlword &&& 0x0087 = 0x0006 then readyToSwitchOn
      else operationEnabled
    | fault => fault

def statusword : CiA402State → Nat
  | switchOnDisabled => 0x0040
  | readyToSwitchOn => 0x0021
  | switchedOn => 0x0023
  | operationEnabled => 0x0027
  | fault => 0x0008

@[simp] theorem statusword_eq_enabled (state : CiA402State) :
    state.statusword = 0x0027 ↔ state = operationEnabled := by
  cases state <;> simp [statusword]

/-- The voltage is off. -/
@[simp] theorem process_zero (state : CiA402State) : state.process 0 = switchOnDisabled := by
  cases state <;> rfl

/-- Fault reset alone never enables the drive, and it never disables it. -/
theorem process_reset (state : CiA402State) {controlword : Nat} (h : controlword &&& 0x0080 ≠ 0) :
    state.process controlword = if state = fault then switchOnDisabled else state := by
  unfold process
  rw [if_pos h]

theorem process_ne_fault {state : CiA402State} (h : state ≠ fault) (controlword : Nat) :
    state.process controlword ≠ fault := by
  cases state with
  | fault => contradiction
  | switchOnDisabled | readyToSwitchOn | switchedOn | operationEnabled =>
    simp only [process]
    split_ifs <;> simp

/-- The drive is enabled only out of the state before, by the enable command. -/
theorem of_process_enabled {state : CiA402State} {controlword : Nat}
    (h : state.process controlword = operationEnabled) :
    state = operationEnabled ∨ state = switchedOn ∧ controlword &&& 0x008F = 0x000F := by
  cases state with
  | operationEnabled => exact .inl rfl
  | switchedOn =>
    simp only [process] at h
    split_ifs at h
    exact .inr ⟨rfl, by assumption⟩
  | switchOnDisabled | readyToSwitchOn | fault =>
    simp only [process] at h
    split_ifs at h

end CiA402State

end EthercatSimulator.Behaviour
