import EthercatSimulator.Adapter.SdoAccess
import EthercatSimulator.Behaviour.SoundLaws
import EthercatSimulator.Profile.Units

/-! Neither adapter changes the units of its parameters. -/

namespace EthercatSimulator.Adapter

open Base Profile Behaviour EthercatSimulator.Runtime

theorem saveOutcome_units : ∀ kn ∈ Axis.saveOutcome, kn.1 ∉ unitKeys := by decide

/-! The virtual servo, which a device reset configures anew. -/

section Servo

variable {F : Type} [PyFloat F] {s : Servo F} {key : Key} {mode : AxisMode}

theorem applyDeviceReset_unit (hkey : key ∈ unitKeys) : s.applyDeviceReset.od key =
    if s.deviceResetRequested then Od.configured s.axisMode key else s.od key := by
  unfold Servo.applyDeviceReset
  dsimp only
  split_ifs
  · unfold Servo.applyDeviceResetResponse
    dsimp only
    rw [Servo.write_od_of_ne _ _ (ne_of_unit hkey (by decide)), Servo.write_od_of_ne _ _ (ne_of_unit hkey (by decide)),
      Servo.write_od_of_ne _ _ (ne_of_unit hkey (by decide)), Servo.write_od_of_ne _ _ (ne_of_unit hkey (by decide))]
    exact reset_unit s.od hkey
  · rfl

theorem modelUpdate_unit (hkey : key ∈ unitKeys) : (Servo.modelUpdate s).2.od key = s.applyDeviceReset.od key := by
  have ht : key ≠ Key.targetPosition := ne_of_unit hkey (by decide)
  have hp : key ≠ Key.actualPosition := ne_of_unit hkey (by decide)
  have hv : key ≠ Key.actualVelocity := ne_of_unit hkey (by decide)
  have hlaw : (Servo.modelUpdate s).2.od key = s.started.od key := by
    refine s.modelUpdate_law (P := fun q => q.od key = s.started.od key) (fun q _ _ hq => ?_) ?_
    · exact (Servo.write_od_of_ne _ _ (ne_of_unit hkey (by decide))).trans hq
    · exact (Servo.Driven.processMode rfl).mono fun _ q hq => hq.od key ht hp hv
  rw [hlaw, s.started_od ht hp hv]
  unfold Servo.applyOdCommands
  rw [Servo.applyMotionCommands_od _ ht hp hv (ne_of_unit hkey (by decide)) (ne_of_unit hkey (by decide)),
    Servo.applyParameterSave_od _ (ne_of_unit hkey (by decide)) (ne_of_unit hkey (by decide))
      (ne_of_unit hkey (by decide))]

theorem modelUpdate_axisMode (s : Servo F) : (Servo.modelUpdate s).2.axisMode = s.axisMode := by
  have hstarted : s.started.axisMode = s.axisMode := by
    refine Eq.trans ?_ (Servo.Commanded.applyOdCommands s).axisMode
    unfold Servo.started Servo.processStateMachine
    dsimp only
    split_ifs <;> rfl
  refine s.modelUpdate_law (P := fun q => q.axisMode = s.axisMode) (fun q _ _ hq => hq) ?_
  exact (Servo.Driven.processMode rfl).mono fun _ q hq =>
    (congrArg Behaviour.Setting.axisMode hq.setting).trans hstarted

/-- The servo of an axis with this mode, in its units. -/
structure Unconverted (mode : AxisMode) (s : Servo F) : Prop where
  axisMode : s.axisMode = mode
  units : s.od.Meets (HasUnits mode)

theorem Unconverted.modelUpdate (h : Unconverted mode s) : Unconverted mode (Servo.modelUpdate s).2 := by
  refine ⟨(modelUpdate_axisMode s).trans h.axisMode, fun key d hd hkey => ?_⟩
  rw [modelUpdate_unit hkey, applyDeviceReset_unit hkey]
  split_ifs
  · rw [h.axisMode]
  · exact h.units key d hd hkey

theorem sdoCalls_units (mode : AxisMode) : Axis.SdoCalls (fKrCmmt F) (Exec.Preserves fun s => s.od.Meets (HasUnits mode)) :=
  (FKrCmmt.odAccess F).sdoCalls takes_units fun kn hkn d _ => hasUnits_of_notMem (saveOutcome_units kn hkn) d _

theorem fKr_units (mode : AxisMode) : Axis.ModelCalls (fKrCmmt F) (Exec.Preserves (Unconverted mode)) where
  toSdoCalls := FKrCmmt.sdoCalls.both (sdoCalls_units mode) fun _ _ hrewritten hunits h => by
    have hod := hunits h.units
    obtain ⟨od, rfl⟩ := hrewritten.frame
    exact ⟨h.axisMode, hod⟩
  applyOutputs payload s h := by
    rcases FKrCmmt.applyOutputs_post payload s with ⟨_, _, hs⟩ | ⟨_, _, hs⟩
    · change Unconverted mode (FKrCmmt.applyOutputs payload s).2
      rw [hs]
      exact h
    · change Unconverted mode (FKrCmmt.applyOutputs payload s).2
      rw [hs]
      refine ⟨h.axisMode, h.units.writeAll fun kv hkv d _ => hasUnits_of_notMem ?_ d _⟩
      have hcommands : ∀ key ∈ [Key.controlword, Key.modeOfOperation, Key.targetPosition, Key.profileVelocity,
          Key.targetVelocity, Key.targetTorque, Key.velocityOffset, Key.torqueOffset], key ∉ unitKeys := by decide
      exact hcommands kv.1 (List.mem_map_of_mem (f := Prod.fst) hkv)
  step dt s h := Unconverted.modelUpdate (s := { s with cycleTime := dt }) ⟨h.axisMode, h.units⟩
  readInputs s h := by
    change Unconverted mode (FKrCmmt.readInputs s).2
    rw [FKrCmmt.readInputs_eq]
    exact h

end Servo

/-! The adapter of an FMU. -/

section Copley

variable {F ρ : Type} [PyFloat F] {R : Runner F ρ}

theorem copley_units (R : Runner F ρ) (mode : AxisMode) :
    Axis.ModelCalls (copley R) (Copley.KeepsMeets (HasUnits mode)) := by
  have hrefreshed : ∀ key ∈ Copley.refreshed, key ∉ unitKeys := by decide
  refine Copley.modelCalls_meets takes_units (fun payload od hod key d hd hkey => ?_)
    (fun kn hkn d _ => hasUnits_of_notMem (saveOutcome_units kn hkn) d _)
    fun key hkey d _ _ => hasUnits_of_notMem (hrefreshed key hkey) d _
  have hunmapped : ∀ o ∈ rxpdoObjects, ∀ t default, o ≠ .mapped key t default := by
    rintro o ho t default rfl
    have hcommands : ∀ kd ∈ pdoDefinitions .rw rxpdoObjects, kd.1 ∉ unitKeys := by decide
    exact hcommands (key, ⟨t, .rw, default, true⟩) (List.mem_filterMap.mpr ⟨_, ho, rfl⟩) hkey
  have hfixed : (rxpdoPayloadToOd payload od).2 key = od key := rxpdoFrom_fixes payload hunmapped 0 od
  exact hfixed.trans (hod key d hd hkey)

theorem construct_units {mode : AxisMode} {runner : ρ} {s : Copley F ρ}
    (h : Copley.construct R mode runner = .ok s) : s.od.Meets (HasUnits mode) := by
  have hinitialised : ∀ key ∈ Copley.initialised, key ∉ unitKeys := by decide
  exact Copley.construct_meets (fun key hkey d _ _ => hasUnits_of_notMem (hinitialised key hkey) d _)
    (configured_units mode) h

end Copley

end EthercatSimulator.Adapter
