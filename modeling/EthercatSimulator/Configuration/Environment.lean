import Mathlib.Data.List.Sort
import EthercatSimulator.Base.Text
import EthercatSimulator.Storage.ParameterStore

/-! The configuration of the simulator from its environment, and its validation. -/

namespace EthercatSimulator.Configuration

open Base Profile Storage EthercatSimulator.Runtime

/-- The environment variables. -/
abbrev Environment := List (String × String)

/-- The lists of `DEVICE_SIMULATOR_AXIS_…`, in the order in which they are read. -/
inductive AxisList
  | ids | models | modes | parameterSets
  deriving DecidableEq

namespace AxisList

def all : List AxisList := [.ids, .models, .modes, .parameterSets]

theorem mem_all (list : AxisList) : list ∈ all := by cases list <;> decide

def axisPrefix : String := "DEVICE_SIMULATOR_AXIS_"

def key : AxisList → String
  | .ids => axisPrefix ++ "IDS"
  | .models => axisPrefix ++ "MODELS"
  | .modes => axisPrefix ++ "MODES"
  | .parameterSets => axisPrefix ++ "PARAMETER_SETS"

end AxisList

def configFileKey : String := "DEVICE_SIMULATOR_CONFIG_FILE"
def busKey : String := "DEVICE_SIMULATOR_BUS"
def stateKey : String := "DEVICE_SIMULATOR_STATE_DIR"
def interfaceKey : String := "KICKCAT_INTERFACE"
def folderKey : String := "DEVICE_SIMULATOR_FMU_DIR"

def cia402Drive : String := "cia402-drive"

structure Model where
  type : String
  mode : String
  artifact : Option String := none
  deriving DecidableEq

structure Device where
  slaveIndex : Nat
  id : String
  type : String
  model : Model
  parameterSet : String
  deriving DecidableEq

structure Config where
  schemaVersion : Int
  interface : String
  directory : String
  devices : List Device
  deriving DecidableEq

/-- `pathlib`, the working directory, and `repr` of a list of texts. -/
structure Platform where
  cwd : String
  path : String → String
  join : String → String → String
  resolve : String → String → Except Exc String
  repr : List String → String

/-- Raises a `ValueError` unless `c` holds. -/
def check (c : Prop) [Decidable c] (message : String) : Except Exc Unit :=
  if c then .ok () else .error (valueError message)

/-! The entries of the lists. -/

def isDigit (c : Char) : Bool := '0' ≤ c && c ≤ '9'

/-- `0|[1-9][0-9]*`, and the number it writes -/
def number (text : List Char) : Option Nat :=
  match text with
  | [] => none
  | c :: cs =>
    if isDigit c && cs.all isDigit && (c ≠ '0' || cs = []) then
      some (text.foldl (fun n c => 10 * n + (c.toNat - '0'.toNat)) 0)
    else none

/-- `\s*(0|[1-9][0-9]*)\s*:\s*([^:,]+?)\s*`, with the groups converted.  The pattern also matches
when all that follows the colon is white space, and then the value is empty. -/
def axisEntry (entry : List Char) : Option (Nat × String) :=
  match entry.splitOn ':' with
  | [index, value] =>
    if value = [] ∨ ',' ∈ value then none
    else (number (Text.strip index)).map fun n => (n, String.ofList (Text.strip value))
  | _ => none

/-- `\s*(0|[1-9][0-9]*)\s*:\s*axis\s*:\s*(cia402-drive)\s*`, with the first group converted. -/
def busEntry (entry : List Char) : Option Nat :=
  match entry.splitOn ':' with
  | [index, kind, type] =>
    if Text.strip kind = "axis".toList ∧ Text.strip type = cia402Drive.toList then number (Text.strip index)
    else none
  | _ => none

/-- `env.get(key, '')`, stripped -/
def required (env : Environment) (key : String) : Except Exc (List Char) :=
  let value := Text.strip ((env.lookup key).getD "").toList
  if value = [] then .error (valueError (key ++ ": required")) else .ok value

/-- Adds the entries of a list to the values read so far. -/
def axisValues (key : String) :
    List (List Char) → List (Nat × String) → Except Exc (List (Nat × String))
  | [], values => .ok values
  | entry :: rest, values =>
    match axisEntry entry with
    | none => .error (valueError (key ++ ": expected unique index:value entries"))
    | some (n, value) =>
      if n ∈ values.map Prod.fst then .error (valueError (key ++ ": expected unique index:value entries"))
      else axisValues key rest (values ++ [(n, value)])

def readAxis (env : Environment) (key : String) : Except Exc (List (Nat × String)) := do
  let text ← required env key
  axisValues key (text.splitOn ',') []

structure Mappings where
  ids : List (Nat × String)
  models : List (Nat × String)
  modes : List (Nat × String)
  parameterSets : List (Nat × String)

namespace Mappings

def values (m : Mappings) : AxisList → List (Nat × String)
  | .ids => m.ids
  | .models => m.models
  | .modes => m.modes
  | .parameterSets => m.parameterSets

/-- The device with a number, if every list has a value for it. -/
def device (m : Mappings) (index : Nat) : Option Device := do
  let id ← m.ids.lookup index
  let model ← m.models.lookup index
  let mode ← m.modes.lookup index
  let parameterSet ← m.parameterSets.lookup index
  return { slaveIndex := index, id, type := cia402Drive, model := { type := model, mode }, parameterSet }

end Mappings

def readMappings (env : Environment) : Except Exc Mappings := do
  let ids ← readAxis env AxisList.ids.key
  let models ← readAxis env AxisList.models.key
  let modes ← readAxis env AxisList.modes.key
  let parameterSets ← readAxis env AxisList.parameterSets.key
  return { ids, models, modes, parameterSets }

/-- Adds the entries of the bus to the devices found so far. -/
def busDevices (m : Mappings) : List (List Char) → List Device → Except Exc (List Device)
  | [], devices => .ok devices
  | entry :: rest, devices =>
    match busEntry entry with
    | none => .error (valueError (busKey ++ ": expected explicit index:axis:cia402-drive entries"))
    | some index =>
      if index ∈ devices.map Device.slaveIndex then
        .error (valueError (busKey ++ ": duplicate slave index"))
      else
        match m.device index with
        | none => .error (valueError ("Missing axis mapping for slave " ++ toString index))
        | some device => busDevices m rest (devices ++ [device])

/-- `set(values) == indices` -/
def Matches (values : List (Nat × String)) (devices : List Device) : Prop :=
  values.map Prod.fst ⊆ devices.map Device.slaveIndex ∧ devices.map Device.slaveIndex ⊆ values.map Prod.fst

instance (values : List (Nat × String)) (devices : List Device) : Decidable (Matches values devices) :=
  inferInstanceAs (Decidable (_ ∧ _))

/-- The axis settings that no list has. -/
def unused (env : Environment) : List String :=
  ((env.map Prod.fst).filter fun key =>
    AxisList.axisPrefix.toList.isPrefixOf key.toList && key ∉ AxisList.all.map AxisList.key).dedup

/-- The path of the artifact, for the models that have one. -/
def withArtifact (P : Platform) (env : Environment) (d : Device) : Except Exc Device :=
  if d.model.type = ModelType.copleyDriveSim.text then
    let folder := Text.strip ((env.lookup folderKey).getD "./model_artifacts").toList
    if folder = [] then .error (valueError (folderKey ++ ": nonempty path required"))
    else
      let artifact := P.join (String.ofList folder) "CopleyDriveSim-linux.fmu"
      .ok { d with model := { d.model with artifact := some artifact } }
  else .ok d

/-! The validation. -/

/-- `[A-Za-z0-9_.:-]{1,15}` -/
def isInterface (text : String) : Bool :=
  let cs := text.toList
  1 ≤ cs.length && cs.length ≤ 15 &&
    cs.all fun c => isAsciiAlnum c || c = '_' || c = '.' || c = ':' || c = '-'

/-- `configuration.name` -/
def checkName (value location : String) : Except Exc Unit :=
  check (isName value) (location ++ ": use 1-64 letters, digits, underscores or hyphens")

/-- A field of a device that is a name, and that no earlier device has. -/
def checkUniqueName (field : Device → String) (location : String) (before : List Device) (d : Device) :
    Except Exc Unit := do
  checkName (field d) location
  check (field d ∉ before.map field) (location ++ ": duplicate " ++ field d)

def isNonblank (text : String) : Bool := Text.strip text.toList ≠ []

def validateModel (P : Platform) (base location : String) (m : Model) : Except Exc Model := do
  let copley := m.type = ModelType.copleyDriveSim.text
  check (m.artifact.isSome ↔ copley)
    (location ++ ": required fields exactly " ++ if copley then "['artifact', 'mode', 'type']" else "['mode', 'type']")
  check ((m.type = ModelType.fKrCmmt.text ∨ copley) ∧
      (m.mode = modeText .linear ∨ m.mode = modeText .rotary))
    (location ++ ": expected f_kr_cmmt/copley_drive_sim with linear or rotary mode")
  match m.artifact with
  | none => return m
  | some artifact =>
    check (isNonblank artifact) (location ++ ".artifact: path required")
    let resolved ← P.resolve base artifact
    return { m with artifact := some resolved }

def validateDevice (P : Platform) (base : String) (before : List Device) (d : Device) : Except Exc Device := do
  let location := "devices[" ++ toString before.length ++ "]"
  check (d.slaveIndex ∉ before.map Device.slaveIndex)
    (location ++ ".slave_index: unique nonnegative integer required")
  checkUniqueName Device.id (location ++ ".id") before d
  checkUniqueName Device.parameterSet (location ++ ".parameter_set") before d
  check (d.type = cia402Drive) (location ++ ".type: only cia402-drive axes are supported; IO is deferred")
  let model ← validateModel P base (location ++ ".model") d.model
  return { d with model }

/-- Validates the devices after the ones in `before`. -/
def validateDevices (P : Platform) (base : String) : List Device → List Device → Except Exc (List Device)
  | before, [] => .ok before
  | before, d :: rest => do
    let d ← validateDevice P base before d
    validateDevices P base (before ++ [d]) rest

/-- `set(indices) == set(range(len(devices)))` -/
def IsContiguous (devices : List Device) : Prop :=
  devices.map Device.slaveIndex ⊆ List.range devices.length ∧
    List.range devices.length ⊆ devices.map Device.slaveIndex

instance (devices : List Device) : Decidable (IsContiguous devices) := inferInstanceAs (Decidable (_ ∧ _))

def validateConfig (P : Platform) (base : String) (data : Config) : Except Exc Config := do
  check (data.schemaVersion = 1) "schema_version: only integer 1 is supported"
  check (isInterface data.interface) "ethercat.interface: invalid Linux interface name"
  check (isNonblank data.directory) "storage.directory: nonempty path required"
  let directory ← P.resolve base data.directory
  check (data.devices ≠ []) "devices: nonempty array required"
  let devices ← validateDevices P base [] data.devices
  check (IsContiguous devices) "devices.slave_index: must be contiguous from 0 to N-1"
  return { data with directory, devices := devices.insertionSort fun d d' => d.slaveIndex ≤ d'.slaveIndex }

def loadEnvironment (P : Platform) (base : Option String) (env : Environment) : Except Exc Config := do
  check (env.lookup configFileKey = none) (configFileKey ++ " removed; configure DEVICE_SIMULATOR_BUS in .env")
  let m ← readMappings env
  let text ← required env busKey
  let devices ← busDevices m (text.splitOn ',') []
  check (∀ list ∈ AxisList.all, Matches (m.values list) devices)
    ("Axis mapping indices must exactly match " ++ busKey)
  check (unused env = []) ("Unknown axis settings: " ++ P.repr ((unused env).insertionSort (· ≤ ·)))
  let devices ← devices.mapM (withArtifact P env)
  let state ← required env stateKey
  let interface ← required env interfaceKey
  validateConfig P (base.getD P.cwd)
    { schemaVersion := 1, interface := String.ofList interface, directory := P.path (String.ofList state), devices }

end EthercatSimulator.Configuration
