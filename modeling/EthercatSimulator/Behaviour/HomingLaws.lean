import EthercatSimulator.Behaviour.Interruption
import EthercatSimulator.Behaviour.RestLaws

/-! Homing: how a run starts, goes on and ends. -/

namespace EthercatSimulator.Behaviour

open Base Profile Diagnostics PyFloat

namespace Servo

variable {F : Type} [PyFloat F] {s s' : Servo F}

/-- The servo once a homing run of `count` cycles has been started. -/
def homingStarted (s : Servo F) (count : Int) : Servo F :=
  let s := { s with homingActive := true }
  let s := { s with
    homingCounter := count, homingReferenced := false, homingError := false, actualVelocity := 0 }
  { s.writeActualFeedback with targetReached := false }

/-- What an enabled drive does in homing mode. -/
inductive Homed (s : Servo F) : Except Exc Unit → Servo F → Prop
  | goesOn (edge : s.newSetpoint = false) : Homed s (.ok ()) s.advanceHoming
  | starts (edge : s.newSetpoint = true) (count : Int)
    (cycles : cyclesIn (lit (1 / 10)) s.cycleTime = .ok count) :
    Homed s (.ok ()) (s.homingStarted count).advanceHoming
  | fails (edge : s.newSetpoint = true) (e : Exc)
    (cycles : cyclesIn (lit (1 / 10)) s.cycleTime = .error e) :
    Homed s (.error e) { s with homingActive := true }

theorem startHoming_eq (s : Servo F) : startHoming s =
    match cyclesIn (lit (1 / 10)) s.cycleTime with
    | .ok count => (.ok (), s.homingStarted count)
    | .error e => (.error e, { s with homingActive := true }) := by
  unfold startHoming
  rw [Exec.run_bind_ok (Exec.run_modify _ _), Exec.run_bind_ok (Exec.run_get _), Exec.run_bind,
    Exec.run_ofExcept]
  dsimp only
  cases cyclesIn (lit (1 / 10)) s.cycleTime <;> rfl

theorem processHoming_homed (he : s.enabled = true) : processHoming.Post s (Homed s) := by
  apply Exec.post_get_bind
  rw [Exec.when, if_pos he]
  cases hedge : s.newSetpoint with
  | false => exact .goesOn hedge
  | true =>
    change (startHoming >>= fun _ => Exec.modify advanceHoming).Post s (Homed s)
    unfold Exec.Post
    rw [Exec.run_bind, startHoming_eq]
    cases hcycles : cyclesIn (lit (1 / 10)) s.cycleTime with
    | ok count => exact .starts hedge count hcycles
    | error e => exact .fails hedge e hcycles

/-- A run that is under way counts down, or ends at the reference. -/
inductive Advanced (s : Servo F) : Servo F → Prop
  | idle (active : s.homingActive = false) : Advanced s s
  | counts (active : s.homingActive = true) (counter : 1 < s.homingCounter) :
    Advanced s { s with homingCounter := s.homingCounter - 1 }
  | ends (active : s.homingActive = true) (counter : s.homingCounter ≤ 1) :
    Advanced s ({ s with homingCounter := s.homingCounter - 1 } : Servo F).finishHoming

theorem advanceHoming_advanced (s : Servo F) : s.Advanced s.advanceHoming := by
  unfold advanceHoming
  split
  · rename_i h
    exact .idle (by simpa using h)
  · rename_i h
    have hactive : s.homingActive = true := by simpa using h
    dsimp only
    split
    · rename_i hcounter
      exact .counts hactive (by omega)
    · rename_i hcounter
      exact .ends hactive (by omega)

/-- The modes other than homing leave the reference alone. -/
theorem processMode_reference {mode : Int} (h : mode ≠ 6) :
    (processMode mode : PyM (Servo F) Unit).Keeps
      (Exec.Fixes fun s => (s.homingActive, s.homingReferenced)) := by
  have hparts : MotionParts (F := F) (Exec.Fixes fun s => (s.homingActive, s.homingReferenced)) :=
    ⟨fun _ _ _ => rfl, fun _ _ _ => rfl⟩
  exact hparts.processMode (fun _ => ⟨fun _ _ _ _ => rfl⟩) fun hmode => absurd hmode h

end Servo

end EthercatSimulator.Behaviour
