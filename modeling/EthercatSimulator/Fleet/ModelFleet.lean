import EthercatSimulator.Fleet.Drive
import EthercatSimulator.Storage.RestoreLaws

/-! The models of a fleet, and how it starts. -/

namespace EthercatSimulator.Fleet

open Base Profile Behaviour Adapter Storage EthercatSimulator.Runtime

variable {F ρ : Type} [PyFloat F]

def fKrServes : Serves (fKrCmmt F) (fKrDrive F).access where
  od s := s.od
  readSdo _ _ _ := FKrCmmt.readSdo_eq ..
  write _ _ _ := rfl
  validate _ := rfl
  nodup := by
    change ((Profile.persistentRoles ++ [Key.profileVelocity]).map keyText).Nodup
    decide +kernel
  defined := by
    change ∀ key ∈ Profile.persistentRoles ++ [Key.profileVelocity], (definition key).isSome = true
    decide +kernel

def copleyServes (R : Runner F ρ) : Serves (copley R) (copleyDrive R).access where
  od s := s.od
  readSdo _ _ _ := Exec.run_ofExcept ..
  write _ _ _ := rfl
  validate _ := Exec.run_ofExcept ..
  nodup := by
    change (Copley.persistentRoles.map keyText).Nodup
    decide +kernel
  defined := by
    change ∀ key ∈ Copley.persistentRoles, (definition key).isSome = true
    decide +kernel

/-! The models of the registry. -/

/-- The validated devices, in the order of their slave indices. -/
structure Configuration where
  devices : List Device
  types : ∀ device ∈ devices, device.type = "cia402-drive"
  names : ∀ device ∈ devices, isName device.parameterSet = true
  distinct : (devices.map (·.parameterSet)).Nodup

/-- The FMU of a device: how it is driven, and the runner that opens it. -/
structure Artifact (F ρ : Type) where
  runner : Runner F ρ
  opened : Except Exc ρ

def AdapterState (F ρ : Type) : ModelType → Type
  | .fKrCmmt => Servo F
  | .copleyDriveSim => Copley F ρ

def registry (fmu : Artifact F ρ) : (type : ModelType) → Drive F (AdapterState F ρ type)
  | .fKrCmmt => fKrDrive F
  | .copleyDriveSim => copleyDrive fmu.runner

def registryServes (fmu : Artifact F ρ) :
    (type : ModelType) → Serves (registry fmu type).adapter (registry fmu type).access
  | .fKrCmmt => fKrServes
  | .copleyDriveSim => copleyServes fmu.runner

/-- `create_adapter` -/
def createAdapter (fmu : Artifact F ρ) (mode : AxisMode) :
    (type : ModelType) → Except Exc (AdapterState F ρ type)
  | .fKrCmmt => .ok (Servo.construct mode)
  | .copleyDriveSim => do
    let runner ← fmu.opened
    Copley.construct fmu.runner mode runner

/-- A model of the fleet, with the adapter of its device. -/
structure Model (F ρ : Type) where
  device : Device
  adapter : AdapterState F ρ device.modelType

namespace Model

variable (fmus : Device → Artifact F ρ)

/-- `Model.__init__` -/
def init (device : Device) : Except Exc (Model F ρ) := do
  let adapter ← createAdapter (fmus device) device.mode device.modelType
  match openModel (registry (fmus device) device.modelType).adapter adapter with
  | (.ok _, adapter) => return ⟨device, adapter⟩
  | (.error e, _) => throw e

variable (m : Model F ρ)

def drive : Drive F (AdapterState F ρ m.device.modelType) := registry (fmus m.device) m.device.modelType

def serves : Serves (m.drive fmus).adapter (m.drive fmus).access :=
  registryServes (fmus m.device) m.device.modelType

/-- `parameter_values`, with the values as bytes. -/
def parameterValues : Except Exc (List (Key × Bytes)) :=
  (Runtime.parameterValues (m.drive fmus).adapter m.adapter).1

/-- `store.load(model)`, with the model it leaves. -/
def load (format : Format) (files : Files String UInt8) : Except Exc Bool × Model F ρ :=
  match Storage.load format m.device (m.drive fmus).adapter (m.drive fmus).access files m.adapter with
  | (r, adapter) => (r, { m with adapter })

def save (store : ParameterStore) (format : Format) (disk : Disk) : PyM Volume Unit :=
  store.save format m.device disk (m.drive fmus).adapter m.adapter

end Model

/-! `ModelFleet` -/

/-- What the store is, and how the file system behaves while the snapshot of a device is saved. -/
structure Surroundings where
  store : ParameterStore
  format : Format
  disk : Device → Disk

variable (fmus : Device → Artifact F ρ) (env : Surroundings)

/-- The models as they are loaded, with whether a snapshot was found. -/
def loadAll : List (Model F ρ) → PyM Volume (List (Model F ρ × Bool))
  | [] => pure []
  | m :: rest => do
    let v ← Exec.get
    let (found, m) := m.load fmus env.format v.files
    let found ← Exec.ofExcept found
    let others ← loadAll rest
    return (m, found) :: others

def saveAll : List (Model F ρ) → PyM Volume Unit
  | [] => pure ()
  | m :: rest => do
    m.save fmus env.store env.format (env.disk m.device)
    saveAll rest

/-- The models no snapshot was found for. -/
def missing (loaded : List (Model F ρ × Bool)) : List (Model F ρ) :=
  (loaded.filter fun mf => !mf.2).map Prod.fst

/-- `ModelFleet.__init__` -/
def construct (config : Configuration) : PyM Volume (List (Model F ρ)) := do
  let models ← Exec.ofExcept (config.devices.mapM (Model.init fmus))
  let loaded ← loadAll fmus env models
  saveAll fmus env (missing loaded)
  return loaded.map Prod.fst

end EthercatSimulator.Fleet
