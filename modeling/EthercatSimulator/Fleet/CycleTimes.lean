import EthercatSimulator.Behaviour.CycleTime
import EthercatSimulator.FKr.Resumption
import EthercatSimulator.Fleet.Drive

/-! The time between two cycles, and the adapters that step by it. -/

namespace EthercatSimulator.Fleet

open Base Profile Diagnostics Behaviour Adapter Storage EthercatSimulator.Runtime ExtRat

variable {format : Format} {device : Device}

theorem reachable_sound {a : Axis ExtRat (Servo ExtRat)} (h : (fKrDrive ExtRat).Reachable format device a) :
    a.adapter.od.Sound := by
  refine h.invariant (P := fun s => s.od.Sound) (fun s s' initial opens run => ?_) FKrCmmt.modelCalls ?_
  · cases opens
    have hkept := openModel_keeps FKrCmmt.modelCalls.readSdo FKrCmmt.modelCalls.readInputs
      (Servo.construct (F := ExtRat) device.mode)
    have hs : (Servo.construct device.mode : Servo ExtRat).od.Sound := configured_sound device.mode
    rw [show openModel (fKrCmmt ExtRat) (Servo.construct device.mode) = _ from run] at hkept
    exact hkept hs
  · intro key d payload v s hd hv hs
    exact hs.write key v fun d' hd' _ => by
      rw [hd] at hd'
      cases hd'
      exact fits_of_decode hv

theorem reachable_regular {ρ : Type} {R : Runner ExtRat ρ} (hR : R.Succeeds)
    {a : Axis ExtRat (Copley ExtRat ρ)} (h : (copleyDrive R).Reachable format device a) :
    a.adapter.Regular := by
  refine h.invariant (P := Copley.Regular) (fun s s' initial opens run => ?_) (Copley.modelCalls hR) ?_
  · obtain ⟨runner, hrunner⟩ := opens
    have hkept := openModel_keeps (Copley.modelCalls hR).readSdo (Copley.modelCalls hR).readInputs s
    rw [show openModel (copley R) s = _ from run] at hkept
    exact hkept (Copley.construct_regular hrunner)
  · intro key d payload v s hd hv hs
    exact hs.withOd (hs.integral.decoded Copley.decodes_int hd hv)

/-- Two clock readings no more than 100 ms apart let the virtual servo step, unless they are equal
and the update counts cycles; an adapter of a Copley drive with valid parameters steps unless they
are equal. -/
theorem step_by_readings (format : Format) (device : Device) {last now : ℚ} (hle : last ≤ now)
    (hgap : now - last ≤ 1 / 10) :
    (∀ a, (fKrDrive ExtRat).Reachable format device a → ∀ payload s,
      (fKrCmmt ExtRat).applyOutputs payload a.adapter = (.ok (), s) →
        (((fKrCmmt ExtRat).step (num now - num last)).Runs s ↔
          last ≠ now ∨ ¬ Servo.WillCount { s with cycleTime := num now - num last })) ∧
    ∀ ρ (R : Runner ExtRat ρ), R.Succeeds → ∀ a, (copleyDrive R).Reachable format device a →
      ∀ payload s, (copley R).applyOutputs payload a.adapter = (.ok (), s) →
        (copley R).validateParameters.Runs s →
          (((copley R).step (num now - num last)).Runs s ↔ last ≠ now) := by
  have hne : now - last ≠ 0 ↔ last ≠ now := by
    rw [ne_eq, sub_eq_zero]
    exact ⟨Ne.symm, Ne.symm⟩
  constructor
  · intro a ha payload s hrun
    have hs : s.od.Sound := by
      have hkept := FKrCmmt.modelCalls.applyOutputs payload a.adapter (reachable_sound ha)
      rw [hrun] at hkept
      exact hkept
    rw [num_sub, ← hne]
    exact Servo.modelUpdate_runs (s := { s with cycleTime := num (now - last) }) hs rfl
  · intro ρ R hR a ha payload s hrun hvalid
    have hregular := reachable_regular hR ha
    have hs : s.Regular := by
      have hkept := (Copley.modelCalls hR).applyOutputs payload a.adapter hregular
      rw [hrun] at hkept
      exact hkept
    have hready := Copley.ready_of_applied hregular hrun hvalid
    rw [num_sub]
    refine (Copley.step_runs hR hs hready _).trans (Copley.admitted_num.trans ?_)
    rw [and_iff_left hgap, sub_pos]
    exact ⟨ne_of_lt, lt_of_le_of_ne hle⟩

/-- An FMU that stands still. -/
def steadyRunner : Runner ExtRat Unit where
  set _ := pure ()
  step _ := pure ()
  statusWord := pure 0x40
  output _ := pure 0
  parameter _ := pure (num 1000)

def steadyDrive : Copley ExtRat Unit :=
  (Copley.initialise steadyRunner (Copley.configured .linear ())).2

/-- Profile position mode at rest, the profile velocity set to 1. -/
def restingFrame : Bytes := [0x00, 0x00, 0x01, 0, 0, 0, 0, 0x01] ++ List.replicate 16 0x00

theorem step_by_readings_apart :
    ((fKrCmmt ExtRat).step (num (1 / 100) - num 0)).Runs
      ((fKrCmmt ExtRat).applyOutputs restingFrame (Servo.construct .linear)).2 ∧
    ((copley steadyRunner).step (num (1 / 100) - num 0)).Runs
      ((copley steadyRunner).applyOutputs restingFrame steadyDrive).2 := by
  let format : Format := ⟨fun _ => [], fun _ => .ok .null, fun _ => ""⟩
  let device : Device := ⟨"", .fKrCmmt, .linear, ""⟩
  obtain ⟨hservo, hcopley⟩ := @step_by_readings format device 0 (1 / 100) (by norm_num) (by norm_num)
  constructor
  · obtain ⟨a, ha, hadapter⟩ := reachable_fKr (F := ExtRat) format device
    have hrun : ((fKrCmmt ExtRat).applyOutputs restingFrame (Servo.construct .linear)).1 = .ok () := by
      decide +kernel
    exact (hservo a ha restingFrame _ (hadapter ▸ Prod.ext hrun rfl)).mpr (.inl (by norm_num))
  · have hR : steadyRunner.Succeeds :=
      ⟨fun _ _ => ⟨(), rfl⟩, fun _ _ => ⟨(), rfl⟩, fun _ => ⟨_, rfl⟩, fun _ _ => ⟨_, rfl⟩⟩
    have hopens : Copley.construct steadyRunner .linear () = .ok steadyDrive := by
      have hok : (Copley.initialise steadyRunner (Copley.configured .linear ())).1 = .ok () := by
        decide +kernel
      have hrun : Copley.initialise steadyRunner (Copley.configured .linear ()) = (.ok (), steadyDrive) :=
        Prod.ext hok rfl
      rw [Copley.construct, hrun]
    have hrun : ((copley steadyRunner).applyOutputs restingFrame steadyDrive).1 = .ok () := by
      decide +kernel
    have hvalid : ((copley steadyRunner).validateParameters
        ((copley steadyRunner).applyOutputs restingFrame steadyDrive).2).1 = .ok () := by
      decide +kernel
    have hopen : (openModel (copley steadyRunner) steadyDrive).1.toOption.isSome := by decide +kernel
    cases hinitial : (openModel (copley steadyRunner) steadyDrive).1 with
    | error e =>
      rw [hinitial] at hopen
      cases hopen
    | ok initial =>
      have hreach : (copleyDrive steadyRunner).Reachable format device (Axis.start 0 steadyDrive initial false) :=
        .opened 0 ⟨(), hopens⟩ (Prod.ext hinitial (openModel_copley steadyRunner steadyDrive))
      exact (hcopley Unit steadyRunner hR _ hreach restingFrame _ (Prod.ext hrun rfl) ⟨(), hvalid⟩).mpr
        (by norm_num)

/-- The fourth cycle of a homing run reads the clock the third one read. -/
def repeatedTrace : Trace ExtRat := fun n =>
  (⟨num (Nat.min n 2 / 100), 0, fun _ => .ok ()⟩,
    .cycle (some (hexText ([[0x06, 0x07, 0x0f, 0x1f].getD n 0x1f, 0x00, 0x06] ++ List.replicate 21 0x00))))

/-- No time passes, and homing divides by it; the other adapter refuses it. -/
theorem repeated_reading_latches :
    let axis := Axis.states (fKrCmmt ExtRat) FKr.movingAxis repeatedTrace
    (axis 3).faultState.fault = none ∧ (axis 3).lastCycle = some (repeatedTrace 3).1.monotonic ∧
      (axis 4).faultState.restartRequired = true ∧
      (axis 4).faultState.fault.map (·.detail) = some "float division by zero" ∧
      ((copley steadyRunner).step (num 1 - num 1)
        ((copley steadyRunner).applyOutputs restingFrame steadyDrive).2).1 =
          .error (valueError "Model dt must be in (0, 0.1] seconds") := by
  decide +kernel

end EthercatSimulator.Fleet
