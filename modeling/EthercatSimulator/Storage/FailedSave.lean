import EthercatSimulator.Adapter.FKrCmmt
import EthercatSimulator.Storage.SaveLaws

/-! A save that raises, and the snapshot it leaves. -/

namespace EthercatSimulator.Storage

open Base Profile EthercatSimulator.Runtime

variable {F σ : Type} (store : ParameterStore) (format : Format) (device : Device) (d : Disk)
  (A : DriveAdapter F σ) (model : σ)

/-- The save puts another text in the place of the snapshot, and raises after that. -/
structure FailsLate (files : Files String UInt8) : Prop where
  locked : store.locked = true
  values : ∃ values, (savedValues A model).1 = .ok values ∧
    files device.path ≠ some (format.dump (snapshot format device values))
  replaces : d.Replaces files device.path
  raises : ¬ d.Finishes store.posix

/-- A save that raises leaves the snapshot as it was. -/
def KeepsSnapshot (v : Volume) : Prop :=
  ∀ e, (store.save format device d A model v).1 = .error e →
    (store.save format device d A model v).2.files device.path = v.files device.path

variable {store format device d A model} {v : Volume}

theorem replaced_of_failsLate (h : FailsLate store format device d A model v.files) :
    ¬ KeepsSnapshot store format device d A model v := by
  obtain ⟨hlocked, ⟨values, hvalues, hother⟩, hreplaces, hraises⟩ := h
  obtain ⟨steps, content, htrace⟩ :=
    store.saveValues_trace format device d (savedValues A model).1 v
  have hreplacement : store.replacement format device d (savedValues A model).1 v.files =
      some (format.dump (snapshot format device values)) :=
    (store.replacement_eq_some format device d _).mpr ⟨hlocked, hreplaces, values, hvalues, rfl⟩
  have hfiles := htrace.killed List.prefix_rfl (d.temporaryName_ne device.path)
  rw [if_pos ⟨rfl, htrace.replaced.mpr (by rw [hreplacement]; nofun)⟩, hreplacement] at hfiles
  intro hkeeps
  cases hresult : (store.save format device d A model v).1 with
  | ok => exact hraises (htrace.result.mp hresult).2
  | error e =>
    have hkept := hkeeps e hresult
    unfold ParameterStore.save at hkept
    rw [htrace.state] at hkept
    exact hother (hkept.symm.trans hfiles)

theorem kept_of_not_failsLate (h : ¬ FailsLate store format device d A model v.files) :
    KeepsSnapshot store format device d A model v := by
  obtain ⟨steps, content, htrace⟩ :=
    store.saveValues_trace format device d (savedValues A model).1 v
  intro e he
  unfold ParameterStore.save at he ⊢
  rw [htrace.state]
  refine (htrace.killed List.prefix_rfl (d.temporaryName_ne device.path)).trans ?_
  split_ifs with hreplaced
  · cases hreplacement : store.replacement format device d (savedValues A model).1 v.files with
    | none => exact absurd hreplacement (htrace.replaced.mp hreplaced.2)
    | some text =>
      obtain ⟨hlocked, hreplaces, values, hvalues, rfl⟩ :=
        (store.replacement_eq_some format device d _).mp hreplacement
      by_contra hother
      refine h ⟨hlocked, ⟨values, hvalues, fun hsame => hother hsame.symm⟩, hreplaces, fun hfinishes => ?_⟩
      have hok := htrace.result.mpr ⟨by rw [hreplacement]; nofun, hfinishes⟩
      rw [he] at hok
      cases hok
  · rfl

variable (store format device d A model v)

theorem failed_save :
    KeepsSnapshot store format device d A model v ↔ ¬ FailsLate store format device d A model v.files :=
  ⟨fun hkeeps hlate => replaced_of_failsLate hlate hkeeps, kept_of_not_failsLate⟩

/-- The directory cannot be synchronised after the replacement. -/
theorem failed_save_late :
    ¬ KeepsSnapshot ⟨true, true⟩ ⟨fun _ => [0x7B, 0x7D], fun _ => .ok .null, fun _ => ""⟩
      ⟨"cia402-drive", .fKrCmmt, .linear, "axis-0"⟩
      ⟨"k3_w0x9a", fun c => if c = .fsyncDirectory then some ⟨.osError, "Input/output error"⟩ else none, 0⟩
      (Adapter.fKrCmmt ExtRat) (Behaviour.Servo.construct .linear) ⟨fun _ => none, []⟩ := by
  have hsaved : ((savedValues (Adapter.fKrCmmt ExtRat) (Behaviour.Servo.construct .linear)).1.toOption).isSome := by
    decide +kernel
  cases hvalues : (savedValues (Adapter.fKrCmmt ExtRat) (Behaviour.Servo.construct .linear)).1 with
  | error e =>
    rw [hvalues] at hsaved
    cases hsaved
  | ok values => exact replaced_of_failsLate ⟨rfl, ⟨values, hvalues, nofun⟩, by decide, by decide⟩

end EthercatSimulator.Storage
