import EthercatSimulator.Profile.Sound

/-! The units parameters are counted in: read-only, and as the device description configures them. -/

namespace EthercatSimulator.Profile

open Base

variable {F : Type} [PyFloat F] {mode : AxisMode} {key : Key}

def unitKeys : List Key := [
  Key.userPositionUnit, Key.convertingUnitPosition, Key.convertingUnitVelocity,
  Key.convertingUnitAcceleration, Key.convertingUnitJerk]

/-- A unit has the value that the mode of the axis is configured with. -/
def HasUnits (mode : AxisMode) (key : Key) (_ : Definition) (v : Value F) : Prop :=
  key ∈ unitKeys → v = Od.configured mode key

theorem unit_definition : ∀ key ∈ unitKeys, ∀ d ∈ definition key, d.access = .ro ∧ d.pdo = false := by decide

theorem unit_preset (mode : AxisMode) : ∀ key ∈ unitKeys, ∃ kn ∈ presets mode, kn.1 = key := by
  cases mode <;> decide

theorem presets_nodup (mode : AxisMode) : ((presets mode).map Prod.fst).Nodup := by
  cases mode <;> decide

theorem ne_of_unit (h : key ∈ unitKeys) {other : Key} (hother : other ∉ unitKeys) : key ≠ other :=
  fun hsame => hother (hsame ▸ h)

theorem takes_units : Takes (HasUnits (F := F) mode) := fun _ _ _ _ hd haccess _ hkey =>
  absurd (unit_definition _ hkey _ hd).1 haccess

/-- What is no unit may have any value. -/
theorem hasUnits_of_notMem (h : key ∉ unitKeys) (d : Definition) (v : Value F) : HasUnits mode key d v :=
  fun hkey => absurd hkey h

/-- A reset leaves the units of the mode, whatever was there. -/
theorem reset_unit (od : Od F) (h : key ∈ unitKeys) :
    (od.resetNonPdoConfiguration mode).resetPdoValues key = Od.configured mode key := by
  have hreset (od : Od F) : od.resetPdoValues key = od key := by
    unfold Od.resetPdoValues
    cases hd : definition key with
    | none => rfl
    | some d => exact if_neg (by rw [(unit_definition key h d hd).2]; exact Bool.false_ne_true)
  obtain ⟨kn, hkn, rfl⟩ := unit_preset mode key h
  have hnodup : (((presets mode).map fun kv => (kv.1, (kv.2.value : Value F))).map Prod.fst).Nodup := by
    rw [List.map_map]
    exact presets_nodup mode
  have hmem : (kn.1, (kn.2.value : Value F)) ∈ (presets mode).map fun kv => (kv.1, kv.2.value) :=
    List.mem_map.mpr ⟨kn, hkn, rfl⟩
  have hpreset (od : Od F) : od.resetNonPdoConfiguration mode kn.1 = kn.2.value := od.writeAll_mem hnodup hmem
  unfold Od.configured
  exact ((hreset _).trans (hpreset od)).trans ((hreset _).trans (hpreset _)).symm

theorem configured_units (mode : AxisMode) : (Od.configured mode : Od F).Meets (HasUnits mode) := fun _ _ _ _ => rfl

/-- A unit that is read and decoded is the unit. -/
theorem decode_unit {d : Definition} {v w : Value F} {raw : Bytes} (hd : definition key = some d)
    (hv : HasUnits mode key d v) (hread : encodeOdValue d.dataType v = .ok raw)
    (hdecode : decodeOdValue d.dataType raw = .ok w) : HasUnits mode key d w := by
  intro hkey
  have hfits : (Od.configured mode : Od F).FitsBut fun _ => False := configured_fits mode
  have ht : ∀ key ∈ unitKeys, ∀ d ∈ definition key, d.dataType ≠ .float32 := by decide
  obtain ⟨n, hn⟩ := (hfits key d hd id).int (ht key hkey d hd)
  have hunit := hv hkey
  rw [hunit, hn] at hread
  rw [hn]
  exact Except.ok.inj (hdecode.symm.trans (decode_of_encode (ht key hkey d hd) hread))

end EthercatSimulator.Profile
