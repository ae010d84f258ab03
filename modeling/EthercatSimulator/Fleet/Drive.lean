import EthercatSimulator.Adapter.CopleyLaws
import EthercatSimulator.Storage.LoadLaws

/-! The axes of a fleet: an adapter of the registry, opened, restored and asked. -/

namespace EthercatSimulator.Fleet

open Base Profile Behaviour Adapter Storage EthercatSimulator.Runtime

/-- A drive model of the registry: its adapter, how parameters are restored into it, and the
states `create_adapter` can open it in. -/
structure Drive (F σ : Type) where
  adapter : DriveAdapter F σ
  access : ParameterAccess F σ
  Opens : AxisMode → σ → Prop

variable {F σ ρ : Type} [PyFloat F]

def fKrDrive (F : Type) [PyFloat F] : Drive F (Servo F) where
  adapter := fKrCmmt F
  access := { write := fun key v s => s.write key v, validate := fun _ => .ok () }
  Opens mode s := s = Servo.construct mode

def copleyDrive (R : Runner F ρ) : Drive F (Copley F ρ) where
  adapter := copley R
  access := {
    write := fun key v s => { s with od := s.od.write key v }
    validate := Copley.validateParameters }
  Opens mode s := ∃ runner, Copley.construct R mode runner = .ok s

def readEntries (A : DriveAdapter F σ) : List (Key × Definition) → PyM σ Unit
  | [] => pure ()
  | (key, d) :: rest => do
    let _ ← A.readSdo key d.dataType.size
    readEntries A rest

/-- The reads of `Model.__init__`: every entry, and the first inputs, which it keeps. -/
def openModel (A : DriveAdapter F σ) : PyM σ Bytes := do
  readEntries A definitions
  A.readInputs

omit [PyFloat F] in
theorem openModel_keeps {A : DriveAdapter F σ} {R : σ → σ → Prop} [Std.Refl R] [IsTrans σ R]
    (hread : ∀ key size, (A.readSdo key size).Keeps R) (hinputs : A.readInputs.Keeps R) :
    (openModel A).Keeps R := by
  refine .bind ?_ fun _ => hinputs
  induction definitions with
  | nil => exact Exec.keeps_pure _
  | cons kd rest ih =>
    exact .bind (hread _ _) fun _ => ih

namespace Drive

variable (D : Drive F σ) (format : Format) (device : Device)

/-- The states of an axis: after `Model.__init__`, with a store after `load`, and after any
requests. -/
inductive Reachable : Axis F σ → Prop
  | opened {s s' : σ} {initial : Bytes} (slaveIndex : Nat) (opens : D.Opens device.mode s)
    (run : openModel D.adapter s = (.ok initial, s')) :
    Reachable (Axis.start slaveIndex s' initial false)
  | restored {s s' s'' : σ} {initial : Bytes} {files : Base.Files String UInt8} {found : Bool}
    (slaveIndex : Nat) (opens : D.Opens device.mode s)
    (run : openModel D.adapter s = (.ok initial, s'))
    (loaded : load format device D.adapter D.access files s' = (.ok found, s'')) :
    Reachable (Axis.start slaveIndex s'' initial true)
  | dispatched {a : Axis F σ} (m : Moment F) (request : Request) (h : Reachable a) :
    Reachable (Axis.dispatch D.adapter m request a).2

variable {D format device}

/-- What the adapter is opened with, and what loads and calls keep, holds of every axis. -/
theorem Reachable.rule {P : σ → Prop}
    (hopens : ∀ s s' initial, D.Opens device.mode s → openModel D.adapter s = (.ok initial, s') → P s')
    (hload : ∀ files found s s', load format device D.adapter D.access files s = (.ok found, s') → P s → P s')
    (hcalls : Axis.ModelCalls D.adapter (Exec.Preserves P)) {a : Axis F σ} (h : D.Reachable format device a) :
    P a.adapter := by
  induction h with
  | opened _ opens run => exact hopens _ _ _ opens run
  | restored _ opens run loaded => exact hload _ _ _ _ loaded (hopens _ _ _ opens run)
  | dispatched m request _ ih => exact hcalls.dispatch request _ ih

/-- ... and a load keeps what restored values keep. -/
theorem Reachable.invariant {P : σ → Prop}
    (hopens : ∀ s s' initial, D.Opens device.mode s → openModel D.adapter s = (.ok initial, s') → P s')
    (hcalls : Axis.ModelCalls D.adapter (Exec.Preserves P))
    (hwrite : ∀ key d payload v s, definition key = some d → decodeOdValue d.dataType payload = .ok v →
      P s → P (D.access.write key v s)) {a : Axis F σ} (h : D.Reachable format device a) : P a.adapter := by
  refine h.rule hopens (fun files found s s' loaded hs => ?_) hcalls
  have hkept : P s → P (load format device D.adapter D.access files s).2 :=
    load_keeps hcalls.toSdoCalls hwrite files s
  rw [loaded] at hkept
  exact hkept hs

end Drive

/-! The virtual servo opens. -/

section Opens

variable {F : Type} [PyFloat F]

theorem readEntries_fKr (s : Servo F) {entries : List (Key × Definition)}
    (h : ∀ kd ∈ entries, ∃ raw, bridgeReadSdo s.od kd.1 = .ok raw) :
    readEntries (fKrCmmt F) entries s = (.ok (), s) := by
  induction entries with
  | nil => rfl
  | cons kd rest ih =>
    obtain ⟨raw, hraw⟩ := h kd List.mem_cons_self
    have hread : (fKrCmmt F).readSdo kd.1 kd.2.dataType.size s = (.ok raw, s) := by
      change FKrCmmt.readSdo kd.1 s = _
      rw [FKrCmmt.readSdo_eq, hraw]
    exact (Exec.run_bind_ok hread _).trans (ih fun kd' hkd' => h kd' (List.mem_cons_of_mem _ hkd'))

theorem encodePdoObjects_ok {od : Od F} {objects : List PdoObject} (hobjects : ∀ o ∈ objects, o.Declared)
    (hod : od.FitsBut fun _ => False) : ∃ output, encodePdoObjects od objects = .ok output := by
  induction objects with
  | nil => exact ⟨[], rfl⟩
  | cons o rest ih =>
    obtain ⟨tail, htail⟩ := ih fun o' ho' => hobjects o' (List.mem_cons_of_mem _ ho')
    obtain ⟨raw, hraw⟩ : ∃ raw, encodePdoObject od o = .ok raw := by
      cases o with
      | padding n => exact ⟨_, rfl⟩
      | mapped key t default =>
        have hdeclared : (definition key).map (·.dataType) = some t := hobjects _ List.mem_cons_self
        obtain ⟨d, hd, rfl⟩ := Option.map_eq_some_iff.mp hdeclared
        exact (hod key d hd id).encodable
    exact ⟨raw ++ tail, by rw [encodePdoObjects, hraw, htail]; rfl⟩

theorem txpdoObjects_declared : ∀ o ∈ txpdoObjects, o.Declared := by decide

theorem definitions_nodup : ∀ kd ∈ definitions, definition kd.1 = some kd.2 := by decide +kernel

theorem openModel_fKr (mode : AxisMode) : ∃ initial,
    openModel (fKrCmmt F) (Servo.construct mode) = (.ok initial, Servo.construct mode) := by
  have hfits : (Servo.construct mode : Servo F).od.FitsBut fun _ => False := configured_fits mode
  obtain ⟨initial, hinitial⟩ := encodePdoObjects_ok txpdoObjects_declared hfits
  have hentries : readEntries (fKrCmmt F) definitions (Servo.construct mode) = (.ok (), Servo.construct mode) := by
    refine readEntries_fKr _ fun kd hkd => ?_
    have hd := definitions_nodup kd hkd
    obtain ⟨raw, hraw⟩ := (hfits kd.1 kd.2 hd id).encodable
    refine ⟨raw, ?_⟩
    unfold bridgeReadSdo
    rw [hd]
    exact hraw
  refine ⟨initial, (Exec.run_bind_ok hentries _).trans ?_⟩
  change FKrCmmt.readInputs _ = _
  rw [FKrCmmt.readInputs_eq]
  exact Prod.ext hinitial rfl

theorem openModel_copley {ρ : Type} (R : Runner F ρ) (s : Copley F ρ) : (openModel (copley R) s).2 = s := by
  have hread (key : Key) (size : Nat) : ((copley R).readSdo key size).Keeps Eq :=
    .bind Exec.keeps_get fun s => Exec.keeps_ofExcept _
  have hinputs : (copley R).readInputs.Keeps Eq := .bind Exec.keeps_get fun s => Exec.keeps_ofExcept _
  exact (openModel_keeps hread hinputs s).symm

theorem reachable_fKr (format : Format) (device : Device) :
    ∃ a, (fKrDrive F).Reachable format device a ∧ a.adapter = Servo.construct device.mode := by
  obtain ⟨initial, hrun⟩ := openModel_fKr (F := F) device.mode
  exact ⟨_, .opened 0 rfl hrun, rfl⟩

end Opens

end EthercatSimulator.Fleet
